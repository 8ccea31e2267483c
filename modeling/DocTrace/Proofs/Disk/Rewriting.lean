import DocTrace.Proofs.Disk.Places
import Mathlib.Data.List.Nodup

/-! Disks that differ in one file. What lies below a directory that does not hold the file is the
same on both, in the same order. -/

namespace DocTrace.Disk

/-- Whether one disk comes from another by a change at a place, for which directories above the
place may have been made. -/
structure Rewritten (place : Place) (d e : Disk) : Prop where
  workingDirectory : e.workingDirectory = d.workingDirectory
  directories : ∀ other, d.entry? other = some .directory → e.entry? other = some .directory
  elsewhere : ∀ other, ¬other <+: place → e.entry? other = d.entry? other

variable {d e : Disk} {place here : Place}

/-! ### Ways -/

theorem Rewritten.resolveFrom (h : Rewritten place d e) {names : List String} {there : Place}
    (hfrom : d.resolveFrom here names = some there) : e.resolveFrom here names = some there := by
  induction names generalizing here with
  | nil => exact hfrom
  | cons name rest ih =>
    unfold Disk.resolveFrom at hfrom ⊢
    split at hfrom
    · next hhere =>
      rw [if_pos (h.directories here hhere)]
      exact ih hfrom
    · contradiction

theorem Rewritten.resolve? (h : Rewritten place d e) {p : Path} {there : Place}
    (hresolve : d.resolve? p = some there) : e.resolve? p = some there := by
  unfold Disk.resolve? startOf at hresolve ⊢
  rw [h.workingDirectory]
  exact h.resolveFrom hresolve

theorem isDirectory_iff {p : Path} : d.isDirectory p = true ↔
    ∃ there, d.resolve? p = some there ∧ d.entry? there = some .directory := by
  simp only [Disk.isDirectory, Disk.find?, decide_eq_true_eq, Option.bind_eq_some_iff]

theorem Rewritten.isDirectory (h : Rewritten place d e) {p : Path}
    (hdirectory : d.isDirectory p = true) : e.isDirectory p = true := by
  obtain ⟨there, hresolve, hentry⟩ := isDirectory_iff.1 hdirectory
  exact isDirectory_iff.2 ⟨there, h.resolve? hresolve, h.directories there hentry⟩

theorem Rewritten.hasLongName (h : Rewritten place d e) {names : List String} {there : Place}
    (hfrom : d.resolveFrom here names = some there) :
    e.hasLongName here names = d.hasLongName here names := by
  induction names generalizing here with
  | nil => rfl
  | cons name rest ih =>
    unfold Disk.resolveFrom at hfrom
    split at hfrom
    · next hhere =>
      unfold Disk.hasLongName
      rw [hhere, h.directories here hhere, ih hfrom]
    · contradiction

theorem Rewritten.isTooLong (h : Rewritten place d e) {p : Path} {there : Place}
    (hresolve : d.resolve? p = some there) : e.isTooLong p = d.isTooLong p := by
  unfold Disk.isTooLong
  have hstart : e.startOf p = d.startOf p := by rw [startOf, startOf, h.workingDirectory]
  rw [hstart, h.hasLongName hresolve]

/-- The disk with a file at a place. -/
def withFile (d : Disk) (place : Place) (content : List UInt8) : Disk :=
  { d with entries := d.entries.put place (.file content) }

theorem rewritten_withFile (h : d.entry? place ≠ some .directory) (content : List UInt8) :
    Rewritten place d (d.withFile place content) := by
  have hwrite : d.writeAt? place content = some (d.withFile place content) := by
    rw [writeAt?, if_neg h]
    rfl
  obtain ⟨-, hworking, hentries⟩ := entry?_writeAt? hwrite
  refine ⟨hworking, fun other hother => ?_, fun other hother => ?_⟩
  · have hne : other ≠ place := by
      rintro rfl
      exact h hother
    rw [hentries, if_neg hne, hother]
  · have hne : other ≠ place := by
      rintro rfl
      exact hother List.prefix_rfl
    rw [hentries, if_neg hne]

/-! ### The order of places -/

variable {a b c : Place}

theorem placeLe_cons {first other : String} : placeLe (first :: a) (other :: b) = true ↔
    first < other ∨ first = other ∧ placeLe a b = true := by
  simp only [placeLe, Bool.or_eq_true, Bool.and_eq_true, decide_eq_true_eq]

theorem placeLe_total (a b : Place) : placeLe a b = true ∨ placeLe b a = true := by
  induction a generalizing b with
  | nil => exact .inl rfl
  | cons first rest ih =>
    cases b with
    | nil => exact .inr rfl
    | cons other more =>
      rw [placeLe_cons, placeLe_cons]
      grind

theorem placeLe_trans (hab : placeLe a b = true) (hbc : placeLe b c = true) :
    placeLe a c = true := by
  induction a generalizing b c with
  | nil => rfl
  | cons first rest ih =>
    cases b with
    | nil => contradiction
    | cons other more =>
      cases c with
      | nil => contradiction
      | cons third last =>
        rw [placeLe_cons] at hab hbc ⊢
        grind

theorem placeLe_antisymm (hab : placeLe a b = true) (hba : placeLe b a = true) : a = b := by
  induction a generalizing b with
  | nil =>
    cases b with
    | nil => rfl
    | cons other more => contradiction
  | cons first rest ih =>
    cases b with
    | nil => contradiction
    | cons other more =>
      rw [placeLe_cons] at hab hba
      grind

/-! ### Below a directory -/

/-- What lies below a place, in no particular order. -/
def entriesBelow (d : Disk) (place : Place) : List (Place × Entry) :=
  d.entries.entries.filterMap fun e =>
    if place.isPrefixOf e.1 && place ≠ e.1 then some (e.1.drop place.length, e.2) else none

theorem mem_entriesBelow {rest : Place} {entry : Entry} :
    (rest, entry) ∈ d.entriesBelow place ↔ rest ≠ [] ∧ d.entry? (place ++ rest) = some entry := by
  unfold entriesBelow
  rw [List.mem_filterMap]
  constructor
  · rintro ⟨⟨other, found⟩, hmem, hpick⟩
    split at hpick
    · next hbelow =>
      simp only [Bool.and_eq_true, List.isPrefixOf_iff_prefix, decide_eq_true_eq] at hbelow
      obtain ⟨⟨below, rfl⟩, hne⟩ := hbelow
      simp only [List.drop_left, Option.some.injEq, Prod.mk.injEq] at hpick
      obtain ⟨rfl, rfl⟩ := hpick
      have hbelow : below ≠ [] := by rintro rfl; simp at hne
      refine ⟨hbelow, ?_⟩
      rw [ entry?, if_neg (by simp [hbelow])]
      exact Table.find?_eq_some_iff.2 hmem
    · contradiction
  · rintro ⟨hrest, hentry⟩
    rw [ entry?, if_neg (by simp [hrest])] at hentry
    refine ⟨(place ++ rest, entry), Table.find?_eq_some_iff.1 hentry, ?_⟩
    rw [if_pos (by simp [List.isPrefixOf_iff_prefix, hrest])]
    simp

theorem nodup_entriesBelow (d : Disk) (place : Place) :
    ((d.entriesBelow place).map (·.1)).Nodup := by
  have hfirsts : (d.entriesBelow place).map (·.1) = d.entries.keys.filterMap fun other =>
      if place.isPrefixOf other && place ≠ other then some (other.drop place.length) else none := by
    rw [entriesBelow, Table.keys, List.map_filterMap, List.filterMap_map]
    refine List.filterMap_congr fun e _ => ?_
    simp only [Function.comp_apply]
    split <;> rfl
  rw [hfirsts]
  refine List.Nodup.filterMap (fun other other' rest hrest hrest' => ?_) d.entries.distinct
  -- What is left of a place, and where it lies below, give the place back.
  have hback {other : Place} (h : rest ∈ if place.isPrefixOf other && place ≠ other then
      some (other.drop place.length) else none) : other = place ++ rest := by
    split at h
    · next hbelow =>
      simp only [Bool.and_eq_true, List.isPrefixOf_iff_prefix] at hbelow
      obtain ⟨⟨below, rfl⟩, -⟩ := hbelow
      simpa using h
    · simp at h
  exact (hback hrest).trans (hback hrest').symm

theorem below_of_resolve? {p : Path} (h : d.resolve? p = some here) :
    d.below p = (d.entriesBelow here).mergeSort fun a b => placeLe a.1 b.1 := by
  unfold below
  rw [h]
  rfl

theorem Rewritten.mem_entriesBelow_iff (h : Rewritten place d e) (hout : ¬here <+: place)
    (found : Place × Entry) : found ∈ e.entriesBelow here ↔ found ∈ d.entriesBelow here := by
  obtain ⟨rest, entry⟩ := found
  have hsame : e.entry? (here ++ rest) = d.entry? (here ++ rest) :=
    h.elsewhere _ fun hbelow => hout ((List.prefix_append here rest).trans hbelow)
  rw [mem_entriesBelow, mem_entriesBelow, hsame]

theorem pairwise_mergeSort_placeLe (found : List (Place × Entry)) :
    (found.mergeSort fun a b => placeLe a.1 b.1).Pairwise fun a b => placeLe a.1 b.1 = true := by
  refine List.pairwise_mergeSort ?_ ?_ found
  · exact fun _ _ _ hab hbc => placeLe_trans hab hbc
  · exact fun a b => by simpa using placeLe_total a.1 b.1

/-- Below a directory that does not hold the place of the change, both disks show the same. -/
theorem Rewritten.below (h : Rewritten place d e) {p : Path} (hresolve : d.resolve? p = some here)
    (hout : ¬here <+: place) : e.below p = d.below p := by
  rw [below_of_resolve? hresolve, below_of_resolve? (h.resolve? hresolve)]
  have hperm : (e.entriesBelow here).Perm (d.entriesBelow here) :=
    (List.perm_ext_iff_of_nodup (.of_map _ (nodup_entriesBelow e here))
      (.of_map _ (nodup_entriesBelow d here))).2 (h.mem_entriesBelow_iff hout)
  -- Both lists are sorted by places, and no place stands twice.
  refine List.Perm.eq_of_pairwise ?_ (pairwise_mergeSort_placeLe _) (pairwise_mergeSort_placeLe _)
    ((List.mergeSort_perm _ _).trans (hperm.trans (List.mergeSort_perm _ _).symm))
  intro a b ha hb hab hba
  have hplace : a.1 = b.1 := placeLe_antisymm hab hba
  have hmem := List.mem_mergeSort.1 ha
  have hmem' := (h.mem_entriesBelow_iff hout b).2 (List.mem_mergeSort.1 hb)
  exact List.inj_on_of_nodup_map (nodup_entriesBelow e here) hmem hmem' hplace

end DocTrace.Disk
