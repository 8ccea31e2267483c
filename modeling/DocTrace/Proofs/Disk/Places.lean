import DocTrace.Disk
import Mathlib.Data.Nat.Basic

/-! Ways through a directory tree. A path can be followed where every place on its way
is a directory; making directories opens a way, and a change at a place that is no
directory leaves the ways of others as they were. -/

namespace DocTrace.Disk

variable {d e : Disk} {here place : Place}

/-! ### Entries after a change -/

theorem entry?_writeAt? {content : List UInt8} (h : d.writeAt? place content = some e) :
    d.entry? place ≠ some .directory ∧ e.workingDirectory = d.workingDirectory ∧
      ∀ other, e.entry? other = if other = place then some (.file content) else d.entry? other := by
  unfold writeAt? at h
  split at h
  · simp at h
  · next hplace =>
    obtain rfl := Option.some.inj h
    refine ⟨hplace, rfl, fun other => ?_⟩
    by_cases htop : other = []
    · have hne : other ≠ place := by
        rintro rfl
        simp [ entry?, htop] at hplace
      simp [ entry?, htop, htop ▸ hne]
    · simp [ entry?, htop, Table.find?_put]

theorem entry?_removeAt (d : Disk) (place other : Place) :
    Disk.entry? (d.removeAt place) other =
      if other = [] then some .directory
      else if place.isPrefixOf other then none else d.entry? other := by
  unfold entry? removeAt
  split
  · rfl
  · next htop =>
    split
    · next hbelow =>
      refine Table.find?_eq_none_iff.2 fun hkey => ?_
      obtain ⟨⟨key, entry⟩, hmem, rfl⟩ := List.mem_map.1 hkey
      simpa [hbelow] using (List.mem_filter.1 hmem).2
    · next hbelow =>
      rcases hfind : d.entries.find? other with _ | entry
      · refine Table.find?_eq_none_iff.2 fun hkey => ?_
        obtain ⟨⟨key, entry⟩, hmem, rfl⟩ := List.mem_map.1 hkey
        have hsome := Table.find?_eq_some_iff.2 (List.mem_filter.1 hmem).1
        rw [hfind] at hsome
        simp at hsome
      · refine Table.find?_eq_some_iff.2 (List.mem_filter.2 ?_)
        exact ⟨Table.find?_eq_some_iff.1 hfind, by simp [hbelow]⟩

/-! ### Ways -/

/-- The place that names lead to, one step after the other. -/
def walk (here : Place) (names : List String) : Place := names.foldl step here

/-- Every place on the way is a directory, from the first to the last. -/
def Passes (d : Disk) (here : Place) : List String → Prop
  | [] => d.entry? here = some .directory
  | name :: rest => d.entry? here = some .directory ∧ d.Passes (step here name) rest

theorem Passes.first {names : List String} (h : d.Passes here names) :
    d.entry? here = some .directory := by
  cases names with
  | nil => exact h
  | cons name rest => exact h.1

/-- The place that a path spells, whether or not there are directories on the way. -/
def placeOf (d : Disk) (p : Path) : Place := walk (d.startOf p) p.segments

/-- The content of the file at a place. -/
def contentAt? (d : Disk) (place : Place) : Option (List UInt8) :=
  match d.entry? place with
  | some (.file content) => some content
  | _ => none

theorem resolveFrom_eq_walk {names : List String} (h : d.resolveFrom here names = some place) :
    place = walk here names := by
  induction names generalizing here with
  | nil => exact (Option.some.inj h).symm
  | cons name rest ih =>
    unfold resolveFrom at h
    split at h
    · exact ih h
    · simp at h

theorem Passes.resolveFrom_snoc {names : List String} (h : d.Passes here names) (name : String) :
    d.resolveFrom here (names ++ [name]) = some (step (walk here names) name) := by
  induction names generalizing here with
  | nil =>
    have hdir : d.entry? here = some .directory := h
    simp [resolveFrom, hdir, walk]
  | cons first rest ih =>
    rw [List.cons_append, resolveFrom, if_pos h.1, ih h.2]
    rfl

theorem file?_eq_contentAt? {p : Path} {content : List UInt8} (h : d.file? p = some content) :
    d.contentAt? (d.placeOf p) = some content := by
  unfold file? find? at h
  split at h
  · next c hfind =>
    obtain ⟨place, hresolve, hentry⟩ := Option.bind_eq_some_iff.1 hfind
    rw [placeOf, ← resolveFrom_eq_walk hresolve, contentAt?, hentry]
    exact h
  · simp at h

theorem Passes.of_directories {names : List String} (h : d.Passes here names)
    (hkeep : ∀ place, d.entry? place = some .directory → e.entry? place = some .directory) :
    e.Passes here names := by
  induction names generalizing here with
  | nil => exact hkeep here h
  | cons name rest ih => exact ⟨hkeep here h.1, ih h.2⟩

theorem Passes.writeAt? {names : List String} (h : d.Passes here names) {content : List UInt8}
    (hwrite : d.writeAt? place content = some e) : e.Passes here names := by
  obtain ⟨hplace, -, hentries⟩ := entry?_writeAt? hwrite
  refine h.of_directories fun other hother => ?_
  rw [hentries, if_neg]
  · exact hother
  · rintro rfl
    exact hplace hother

/-- A way that begins below a place that is no directory ends there: it cannot go up through
that place. -/
theorem Passes.stays_below {names : List String} (h : d.Passes here names)
    (hplace : d.entry? place ≠ some .directory) (hbelow : place <+: here) :
    place <+: walk here names := by
  induction names generalizing here with
  | nil => exact hbelow
  | cons name rest ih =>
    refine ih h.2 ?_
    have hne : place ≠ here := by
      rintro rfl
      exact hplace h.1
    obtain ⟨more, rfl⟩ := hbelow
    have hmore : more ≠ [] := by
      rintro rfl
      simp at hne
    unfold step
    split
    · rw [List.dropLast_append_of_ne_nil hmore]
      exact List.prefix_append ..
    · rw [List.append_assoc]
      exact List.prefix_append ..

theorem Passes.first_removeAt {names : List String} (h : d.Passes here names)
    (hplace : d.entry? place ≠ some .directory) (hend : ¬place <+: walk here names) :
    Disk.entry? (d.removeAt place) here = some .directory := by
  have hnot : ¬place <+: here := fun hbelow => hend (h.stays_below hplace hbelow)
  rw [ entry?_removeAt]
  split
  · rfl
  · rw [if_neg (by simpa using hnot)]
    exact h.first

theorem Passes.removeAt {names : List String} (h : d.Passes here names)
    (hplace : d.entry? place ≠ some .directory) (hend : ¬place <+: walk here names) :
    (d.removeAt place).Passes here names := by
  induction names generalizing here with
  | nil => exact h.first_removeAt hplace hend
  | cons name rest ih => exact ⟨h.first_removeAt hplace hend, ih h.2 hend⟩

/-! ### Made directories -/

/-- What making directories does: directories are added where there was nothing. -/
structure Grown (d e : Disk) : Prop where
  workingDirectory : e.workingDirectory = d.workingDirectory
  entries : ∀ place, e.entry? place = d.entry? place ∨
    d.entry? place = none ∧ e.entry? place = some .directory

theorem Grown.refl (d : Disk) : Grown d d := ⟨rfl, fun _ => .inl rfl⟩

theorem Grown.contentAt? (h : Grown d e) (place : Place) :
    e.contentAt? place = d.contentAt? place := by
  unfold Disk.contentAt?
  rcases h.entries place with hsame | ⟨hnone, hdirectory⟩
  · rw [hsame]
  · rw [hnone, hdirectory]

theorem Grown.directory (h : Grown d e) {place : Place}
    (hplace : d.entry? place = some .directory) :
    e.entry? place = some .directory := by
  rcases h.entries place with hsame | ⟨-, hdirectory⟩
  · rw [hsame, hplace]
  · exact hdirectory

theorem grown_put {name : String} (hhere : d.entry? (step here name) = none) :
    Grown d { d with entries := d.entries.put (step here name) .directory } := by
  refine ⟨rfl, fun place => ?_⟩
  by_cases hplace : place = step here name
  · subst hplace
    have htop : step here name ≠ [] := by
      intro htop
      simp [htop, entry?] at hhere
    exact .inr ⟨hhere, by simp [ entry?, htop, Table.find?_put]⟩
  · exact .inl (by simp [ entry?, Table.find?_put, hplace])

theorem Grown.trans {f : Disk} (h : Grown d e) (h' : Grown e f) : Grown d f := by
  refine ⟨h'.workingDirectory.trans h.workingDirectory, fun place => ?_⟩
  rcases h'.entries place with hsame' | ⟨hnone, hdirectory⟩
  · rw [hsame']
    exact h.entries place
  · rcases h.entries place with hsame | ⟨-, hdirectory'⟩
    · exact .inr ⟨hsame ▸ hnone, hdirectory⟩
    · rw [hdirectory'] at hnone
      simp at hnone

theorem makeFrom_spec (d : Disk) (here : Place) (names : List String) :
    Grown d (d.makeFrom here names).1 ∧
      ∀ place, (d.makeFrom here names).2 = some place →
        place = walk here names ∧ (d.makeFrom here names).1.Passes here names := by
  induction names generalizing d here with
  | nil =>
    refine ⟨.refl d, fun place hplace => ?_⟩
    simp only [makeFrom, Option.ite_none_right_eq_some, Option.some.injEq] at hplace
    exact ⟨hplace.2.symm, hplace.1⟩
  | cons name rest ih =>
    unfold makeFrom
    dsimp only
    split
    · exact ⟨.refl d, by simp⟩
    · next hhere =>
      have hhere : d.entry? here = some .directory := Classical.not_not.1 hhere
      split
      · obtain ⟨hgrown, hplace⟩ := ih d (step here name)
        refine ⟨hgrown, fun place h => ?_⟩
        obtain ⟨hwalk, hpasses⟩ := hplace place h
        exact ⟨hwalk, hgrown.directory hhere, hpasses⟩
      · exact ⟨.refl d, by simp⟩
      · next hnone =>
        split
        · exact ⟨.refl d, by simp⟩
        · obtain ⟨hgrown, hplace⟩ :=
            ih { d with entries := d.entries.put (step here name) .directory } (step here name)
          have hboth := (grown_put hnone).trans hgrown
          refine ⟨hboth, fun place h => ?_⟩
          obtain ⟨hwalk, hpasses⟩ := hplace place h
          exact ⟨hwalk, hboth.directory hhere, hpasses⟩

theorem grown_makeDirectory (d : Disk) (p : Path) : Grown d (d.makeDirectory p).1 :=
  (makeFrom_spec d _ _).1

theorem passes_makeDirectory {made : Disk} {p : Path}
    (h : d.makeDirectory p = (made, some place)) :
    place = walk (d.startOf p) p.segments ∧ made.Passes (d.startOf p) p.segments := by
  have hspec := (makeFrom_spec d (d.startOf p) p.segments).2 place
  have hmake : d.makeFrom (d.startOf p) p.segments = (made, some place) := h
  rw [hmake] at hspec
  exact hspec rfl

/-! ### Long names -/

def IsShort (name : String) : Prop := name.utf8ByteSize ≤ maxName

theorem hasLongName_eq_false {names : List String} (h : ∀ name ∈ names, IsShort name) :
    d.hasLongName here names = false := by
  induction names generalizing here with
  | nil => rfl
  | cons name rest ih =>
    have hname : ¬name.utf8ByteSize > maxName := Nat.not_lt.2 (h name (List.mem_cons_self ..))
    have hrest : d.hasLongName (step here name) rest = false :=
      ih fun n hn => h n (List.mem_cons_of_mem _ hn)
    simp [hasLongName, hname, hrest]

theorem Passes.isShort {names : List String} (h : d.Passes here names) {last : String}
    (hlong : d.hasLongName here (names ++ [last]) = false) :
    ∀ name ∈ names ++ [last], IsShort name := by
  induction names generalizing here with
  | nil =>
    have hhere : d.entry? here = some .directory := h
    simp only [List.nil_append, List.mem_singleton, forall_eq]
    simpa [hasLongName, hhere, IsShort] using hlong
  | cons name rest ih =>
    simp only [List.cons_append, hasLongName, h.1, decide_true, Bool.true_and, Bool.or_eq_false_iff,
      decide_eq_false_iff_not, not_lt] at hlong
    intro n hn
    rcases List.mem_cons.1 hn with rfl | hn
    · exact hlong.1
    · exact ih h.2 hlong.2 n hn

end DocTrace.Disk
