import DocTrace.AnalysisCache.Basic
import DocTrace.Proofs.Disk.Places

/-! Replacing a file by way of a copy beside it. Where the replacement succeeds, the path
leads to the new content and can be asked for; where it fails, the content at the place
that the path spells is what it was. -/

namespace DocTrace

theorem Text.joinWith_snoc_size_le (sep : String) (names : List String) {a b : String}
    (h : a.utf8ByteSize ≤ b.utf8ByteSize) :
    (joinWith sep (names ++ [a])).utf8ByteSize ≤ (joinWith sep (names ++ [b])).utf8ByteSize := by
  induction names with
  | nil => simpa [joinWith] using h
  | cons name rest ih =>
    have hcons (last : String) :
        joinWith sep (name :: rest ++ [last]) = name ++ sep ++ joinWith sep (rest ++ [last]) := by
      cases rest <;> rfl
    rw [hcons, hcons, String.utf8ByteSize_append, String.utf8ByteSize_append (s := name ++ sep)]
    omega

theorem Path.segments_eq_snoc {p : Path} (h : p.name ≠ "") :
    p.segments = p.parent.segments ++ [p.name] := by
  have hne : p.segments ≠ [] := by
    intro hnil
    simp [Path.name, hnil] at h
  have hlast : p.name = p.segments.getLast hne := by
    rw [Path.name, List.getLast?_eq_some_getLast hne, Option.getD_some]
  exact (hlast ▸ List.dropLast_concat_getLast hne).symm

theorem Path.toText_snoc (root : String) (names : List String) (last : String) :
    Path.toText ⟨root, names ++ [last]⟩ = root ++ Text.joinWith "/" (names ++ [last]) := by
  simp [Path.toText]

namespace AnalysisCache

open Disk

variable {disk left : Disk} {path : Path} {content : List UInt8}

/-- The name of the copy that is written first. -/
def copyName (path : Path) : String := path.name ++ ".tmp"

theorem copyName_ne (path : Path) : path.name ≠ copyName path := by
  intro h
  have hsize := congrArg String.utf8ByteSize h
  rw [copyName, String.utf8ByteSize_append] at hsize
  have htmp : (".tmp" : String).utf8ByteSize = 4 := by decide
  omega

theorem not_beside_prefix_target (here : Place) (path : Path) :
    ¬(here ++ [copyName path]) <+: step here path.name := by
  intro h
  unfold step at h
  split at h
  · have hlength := h.length_le
    simp at hlength
    omega
  · have hsame := h.eq_of_length (by simp)
    simp only [List.append_cancel_left_eq, List.cons.injEq, and_true] at hsame
    exact copyName_ne path hsame.symm

theorem replaceFile_steps (h : replaceFile disk path content = (left, true)) :
    ∃ made here withCopy replaced, disk.makeDirectory path.parent = (made, some here) ∧
      made.isTooLong ⟨path.root, path.parent.segments ++ [copyName path]⟩ = false ∧
      made.writeAt? (here ++ [copyName path]) content = some withCopy ∧
      withCopy.writeAt? (step here path.name) content = some replaced ∧
      left = replaced.removeAt (here ++ [copyName path]) := by
  unfold replaceFile at h
  split at h
  · simp at h
  · next made here hmade =>
    dsimp only at h
    split at h
    · simp at h
    · next hlong =>
      split at h
      · simp at h
      · next withCopy hcopy =>
        split at h
        · simp at h
        · next replaced hreplace =>
          exact ⟨made, here, withCopy, replaced, hmade, Bool.not_eq_true _ ▸ hlong, hcopy,
            hreplace, (Prod.mk.inj h).1.symm⟩

/-- What a replacement that fails leaves: the directory, and the copy where only the move failed. -/
theorem replaceFile_fails (h : replaceFile disk path content = (left, false)) :
    left = (disk.makeDirectory path.parent).1 ∨
      ∃ made here, disk.makeDirectory path.parent = (made, some here) ∧
        made.writeAt? (here ++ [copyName path]) content = some left := by
  unfold replaceFile at h
  split at h
  · next made hmade => exact .inl (hmade ▸ (Prod.mk.inj h).1.symm)
  · next made here hmade =>
    dsimp only at h
    split at h
    · exact .inl (hmade ▸ (Prod.mk.inj h).1.symm)
    · split at h
      · exact .inl (hmade ▸ (Prod.mk.inj h).1.symm)
      · next withCopy hcopy =>
        split at h
        · obtain rfl := (Prod.mk.inj h).1
          exact .inr ⟨made, here, hmade, hcopy⟩
        · simp at h

/-- Whether a file can be replaced does not depend on what is written. -/
theorem replaceFile_snd (disk : Disk) (path : Path) (content other : List UInt8) :
    (replaceFile disk path content).2 = (replaceFile disk path other).2 := by
  have hwrite (d e : Disk) (place : Place)
      (h : d.entry? place = some .directory ↔ e.entry? place = some .directory) :
      (d.writeAt? place content).isSome = (e.writeAt? place other).isSome := by
    unfold writeAt?
    by_cases hdirectory : d.entry? place = some .directory
    · rw [if_pos hdirectory, if_pos (h.1 hdirectory)]
    · rw [if_neg hdirectory, if_neg (mt h.2 hdirectory)]
      rfl
  unfold replaceFile
  split
  · rfl
  · next made here hmade =>
    dsimp only
    split
    · rfl
    · have hcopy := hwrite made made (here ++ [path.name ++ ".tmp"]) Iff.rfl
      cases hfirst : made.writeAt? (here ++ [path.name ++ ".tmp"]) content with
      | none =>
        rw [hfirst, Option.isSome_none, eq_comm, Option.isSome_eq_false_iff,
          Option.isNone_iff_eq_none] at hcopy
        rw [hcopy]
      | some withCopy =>
        rw [hfirst, Option.isSome_some, eq_comm, Option.isSome_iff_exists] at hcopy
        obtain ⟨withOther, hsecond⟩ := hcopy
        obtain ⟨-, -, hentries⟩ := entry?_writeAt? hfirst
        obtain ⟨-, -, hentriesOther⟩ := entry?_writeAt? hsecond
        have htarget := hwrite withCopy withOther (step here path.name) (by
          rw [hentries, hentriesOther]
          split <;> simp)
        rw [hsecond]
        cases hreplaced : withCopy.writeAt? (step here path.name) content <;>
          cases hreplacedOther : withOther.writeAt? (step here path.name) other <;>
          simp [hreplaced, hreplacedOther] at htarget ⊢

theorem startOf_congr {d e : Disk} (h : e.workingDirectory = d.workingDirectory) (p : Path) :
    e.startOf p = d.startOf p := by rw [startOf, startOf, h]

/-- The way to the directory of a file, once that directory is made. -/
theorem passes_parent {made : Disk} {here : Place}
    (hmade : disk.makeDirectory path.parent = (made, some here)) :
    made.workingDirectory = disk.workingDirectory ∧
      here = walk (made.startOf path) path.parent.segments ∧
      made.Passes (made.startOf path) path.parent.segments := by
  obtain ⟨hwalk, hpasses⟩ := passes_makeDirectory hmade
  have hdir : made.workingDirectory = disk.workingDirectory := by
    have hgrown := grown_makeDirectory disk path.parent
    rw [hmade] at hgrown
    exact hgrown.workingDirectory
  have hstart : disk.startOf path.parent = made.startOf path := (startOf_congr hdir path).symm
  rw [hstart] at hwalk hpasses
  exact ⟨hdir, hwalk, hpasses⟩

theorem file?_replaceFile (hname : path.name ≠ "")
    (h : replaceFile disk path content = (left, true)) : left.file? path = some content := by
  obtain ⟨made, here, withCopy, replaced, hmade, -, hcopy, hreplace, rfl⟩ := replaceFile_steps h
  obtain ⟨-, hwalk, hpasses⟩ := passes_parent hmade
  obtain ⟨-, hdirCopy, hentriesCopy⟩ := entry?_writeAt? hcopy
  obtain ⟨htarget, hdir, hentries⟩ := entry?_writeAt? hreplace
  have hnotTarget := not_beside_prefix_target here path
  -- The copy is a file that ends the path of no directory, so removing it closes no way.
  have hstill : replaced.entry? (here ++ [copyName path]) ≠ some .directory := by
    have hne : here ++ [copyName path] ≠ step here path.name := fun heq =>
      hnotTarget (heq ▸ List.prefix_refl _)
    rw [hentries, if_neg hne, hentriesCopy, if_pos rfl]
    simp
  have hend : ¬(here ++ [copyName path]) <+: walk (made.startOf path) path.parent.segments := by
    rw [← hwalk]
    intro hbelow
    have hlength := hbelow.length_le
    rw [List.length_append, List.length_singleton] at hlength
    omega
  have hpassesLeft := ((hpasses.writeAt? hcopy).writeAt? hreplace).removeAt hstill hend
  have hstart : (replaced.removeAt (here ++ [copyName path])).startOf path = made.startOf path :=
    startOf_congr (hdir.trans hdirCopy) path
  have hresolve : (replaced.removeAt (here ++ [copyName path])).resolve? path =
      some (step here path.name) := by
    rw [resolve?, hstart, Path.segments_eq_snoc hname, hpassesLeft.resolveFrom_snoc, ← hwalk]
  have htop : step here path.name ≠ [] := by
    intro htop
    simp [htop, entry?] at htarget
  have hentry : Disk.entry? (replaced.removeAt (here ++ [copyName path])) (step here path.name) =
      some (.file content) := by
    rw [ entry?_removeAt, if_neg htop, if_neg (by simpa using hnotTarget), hentries, if_pos rfl]
  rw [file?, Disk.find?, hresolve, Option.bind_some, hentry]

theorem isTooLong_replaceFile (hname : path.name ≠ "")
    (h : replaceFile disk path content = (left, true)) : left.isTooLong path = false := by
  obtain ⟨made, here, withCopy, replaced, hmade, hlong, -, -, -⟩ := replaceFile_steps h
  obtain ⟨-, -, hpasses⟩ := passes_parent hmade
  have hsegments := Path.segments_eq_snoc hname
  obtain ⟨hbound, hnames⟩ := Bool.or_eq_false_iff.1 hlong
  have hsize : path.name.utf8ByteSize ≤ (copyName path).utf8ByteSize := by
    rw [copyName, String.utf8ByteSize_append]
    omega
  -- The path of the copy could be asked for, and the copy has the longer name.
  have hshort := hpasses.isShort hnames
  have hallShort : ∀ name ∈ path.segments, IsShort name := by
    intro name hmem
    rw [hsegments] at hmem
    rcases List.mem_append.1 hmem with hmem | hmem
    · exact hshort name (List.mem_append_left _ hmem)
    · rw [List.mem_singleton.1 hmem]
      exact Nat.le_trans hsize (hshort _ (by simp))
  have htext : path.toText.utf8ByteSize ≤ maxPath := by
    have hpath : path.toText =
        path.root ++ Text.joinWith "/" (path.parent.segments ++ [path.name]) := by
      rw [← Path.toText_snoc, ← hsegments]
    have hjoined := Text.joinWith_snoc_size_le "/" path.parent.segments hsize
    simp only [gt_iff_lt, decide_eq_false_iff_not, not_lt, Path.toText_snoc,
      String.utf8ByteSize_append] at hbound
    rw [hpath, String.utf8ByteSize_append]
    omega
  simp [isTooLong, hasLongName_eq_false hallShort, htext]

/-- The document at the place that the path of a cache spells. -/
def documentAt (disk : Disk) (path : Path) : Option (List UInt8) :=
  disk.contentAt? (disk.placeOf path)

theorem documentAt_of_file? (h : disk.file? path = some content) :
    documentAt disk path = some content := file?_eq_contentAt? h

theorem documentAt_grown {made : Disk} (hmade : Grown disk made) :
    documentAt made path = documentAt disk path := by
  have hplace : made.placeOf path = disk.placeOf path := by
    simp [placeOf, startOf, hmade.workingDirectory]
  rw [documentAt, hplace, hmade.contentAt?, documentAt]

theorem documentAt_copied {made withCopy : Disk} {here : Place} (hname : path.name ≠ "")
    (hmade : disk.makeDirectory path.parent = (made, some here))
    (hcopy : made.writeAt? (here ++ [copyName path]) content = some withCopy) :
    documentAt withCopy path = documentAt made path := by
  obtain ⟨-, hhere, -⟩ := passes_parent hmade
  obtain ⟨-, hdir, hentries⟩ := entry?_writeAt? hcopy
  have hplace : made.placeOf path = step here path.name := by
    rw [placeOf, Path.segments_eq_snoc hname, walk, List.foldl_append, hhere]
    rfl
  have hsame : withCopy.placeOf path = step here path.name := by
    rw [← hplace, placeOf, placeOf, startOf_congr hdir]
  have hne : step here path.name ≠ here ++ [copyName path] := fun heq =>
    not_beside_prefix_target here path (heq ▸ List.prefix_refl _)
  rw [documentAt, hsame, documentAt, hplace, contentAt?, hentries, if_neg hne, contentAt?]

/-- A replacement that fails leaves the content as it was. -/
theorem documentAt_replaceFile (hname : path.name ≠ "")
    (h : replaceFile disk path content = (left, false)) :
    documentAt left path = documentAt disk path := by
  have hgrown := grown_makeDirectory disk path.parent
  rcases replaceFile_fails h with rfl | ⟨made, here, hmade, hcopy⟩
  · exact documentAt_grown hgrown
  · rw [hmade] at hgrown
    rw [documentAt_copied hname hmade hcopy, documentAt_grown hgrown]

end AnalysisCache

end DocTrace
