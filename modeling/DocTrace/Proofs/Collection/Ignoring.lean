import DocTrace.Proofs.Collection.Partition
import DocTrace.Proofs.Path.Wildcards

/-! When an ignored path hides all that lies below it. The parts of a path are parts of every path
below it, so what a part alone decides is passed on; a pattern for the path as a whole is passed on
if it goes on, and only then. -/

namespace DocTrace

namespace Path

/-- The path is not empty and does not begin at the root. -/
def IsRelative (path : String) : Prop := ∃ c ∈ path.toList.head?, c ≠ '/'

theorem segmentsOf_append_slash (s t : List Char) :
    segmentsOf (s ++ '/' :: t) = segmentsOf s ++ segmentsOf t := by
  simp only [segmentsOf, Text.splitOn_eq]
  rw [Text.splitOn_append_cons, List.filter_append, List.map_append]

theorem parts_of_relative {path : String} (h : IsRelative path) :
    (ofText path).parts = segmentsOf path.toList := by
  obtain ⟨c, hc, hslash⟩ := h
  have hroot : (ofText path).root = "" := by
    refine root_ofText fun hhead => hslash ?_
    rw [hhead] at hc
    exact (Option.some.inj hc).symm
  rw [parts, hroot]
  rfl

/-- The parts of a path below another are the parts of that one and the names behind them. -/
theorem parts_below {path : String} (h : IsRelative path) (rest : String) :
    (ofText (path ++ "/" ++ rest)).parts = (ofText path).parts ++ segmentsOf rest.toList := by
  have hbelow : (path ++ "/" ++ rest).toList = path.toList ++ '/' :: rest.toList := by simp
  have hrelative : IsRelative (path ++ "/" ++ rest) := by
    obtain ⟨c, hc, hslash⟩ := h
    obtain ⟨s, hs⟩ := List.head?_eq_some_iff.1 hc
    exact ⟨c, by rw [hbelow, hs]; rfl, hslash⟩
  rw [parts_of_relative hrelative, parts_of_relative h, hbelow, segmentsOf_append_slash]

theorem segmentsOf_name {name : List Char} (hslash : '/' ∉ name) (hempty : name ≠ [])
    (hdot : name ≠ ['.']) : segmentsOf name = [.ofList name] := by
  have hone : Text.splitOn '/' name = [name] := by
    rw [Text.splitOn_eq, List.splitOn_eq_singleton hslash]
  rw [segmentsOf, hone]
  simp [hempty, hdot]

theorem isNormalized_name {name : String} (hslash : '/' ∉ name.toList) (hempty : name.toList ≠ [])
    (hdot : name.toList ≠ ['.']) : IsNormalized name := by
  rw [IsNormalized, Text.splitOn_eq, List.splitOn_eq_singleton hslash]
  exact List.forall_mem_singleton.2 ⟨hempty, hdot⟩

/-- No path ends with a slash. -/
theorem IsNormalized.exists_last {path : String} (h : IsNormalized path) :
    ∃ s c, path.toList = s ++ [c] ∧ c ≠ '/' := by
  rw [IsNormalized, Text.splitOn_eq] at h
  rcases List.eq_nil_or_concat path.toList with hnil | ⟨s, c, hconcat⟩
  · rw [hnil] at h
    exact absurd rfl (h [] (by simp)).1
  · refine ⟨s, c, by simpa using hconcat, ?_⟩
    rintro rfl
    have hsplit : path.toList.splitOn '/' = s.splitOn '/' ++ [[]] := by
      rw [hconcat, List.concat_eq_append, Text.splitOn_append_cons, List.splitOn_nil]
    exact absurd rfl (h [] (by simp [hsplit])).1

end Path

namespace Ignore

/-- What makes a path ignored together with all that lies below it: a part of it that is hidden or
that a pattern accepts, or a pattern for the path as a whole that goes on. -/
inductive ClosesOff (patterns : List String) (path : String) : Prop
  | hidden {part : String} : part ∈ (Path.ofText path).parts → isHidden part = true →
      ClosesOff patterns path
  | part {part pattern : String} : part ∈ (Path.ofText path).parts → pattern ∈ patterns →
      Wildcard.accepts pattern part = true → ClosesOff patterns path
  | whole {pattern : String} : pattern ∈ patterns → Wildcard.GoesOn pattern →
      Wildcard.accepts pattern path = true → ClosesOff patterns path

theorem covers_iff {patterns : List String} {path : String} : covers patterns path = true ↔
    (∃ part ∈ (Path.ofText path).parts, isHidden part = true) ∨ ∃ pattern ∈ patterns,
      Wildcard.accepts pattern path = true ∨
        ∃ part ∈ (Path.ofText path).parts, Wildcard.accepts pattern part = true := by
  simp only [covers, Bool.or_eq_true, List.any_eq_true]

theorem ClosesOff.covers {patterns : List String} {path : String} (h : ClosesOff patterns path) :
    covers patterns path = true := by
  rw [covers_iff]
  cases h with
  | hidden hpart hhidden => exact .inl ⟨_, hpart, hhidden⟩
  | part hpart hpattern haccepts => exact .inr ⟨_, hpattern, .inr ⟨_, hpart, haccepts⟩⟩
  | whole hpattern _ haccepts => exact .inr ⟨_, hpattern, .inl haccepts⟩

theorem ClosesOff.below {patterns : List String} {path rest : String}
    (h : ClosesOff patterns path) (hpath : Path.IsRelative path) (hrest : Path.IsNormalized rest) :
    ClosesOff patterns (path ++ "/" ++ rest) := by
  have hparts {part : String} (hpart : part ∈ (Path.ofText path).parts) :
      part ∈ (Path.ofText (path ++ "/" ++ rest)).parts := by
    rw [Path.parts_below hpath]
    exact List.mem_append_left _ hpart
  cases h with
  | hidden hpart hhidden => exact .hidden (hparts hpart) hhidden
  | part hpart hpattern haccepts => exact .part (hparts hpart) hpattern haccepts
  | whole hpattern hgoes haccepts =>
    obtain ⟨s, c, hlast, hc⟩ := hrest.exists_last
    refine .whole hpattern hgoes ?_
    rw [String.append_assoc]
    exact hgoes.accepts_append haccepts (t := '/' :: s) (by simp [hlast]) hc

/-- A pattern that ignores a path and does not close it off leaves a name below the path visible. -/
theorem exists_visible_below {pattern path : String} (hpath : Path.IsRelative path)
    (hcovers : covers [pattern] path = true) (h : ¬ClosesOff [pattern] path) :
    ∃ rest, Path.IsNormalized rest ∧ covers [pattern] (path ++ "/" ++ rest) = false := by
  have hmem : pattern ∈ [pattern] := List.mem_singleton_self pattern
  have hhidden {part : String} (hpart : part ∈ (Path.ofText path).parts) :
      ¬isHidden part = true := fun hhidden => h (.hidden hpart hhidden)
  have hrejected {part : String} (hpart : part ∈ (Path.ofText path).parts) :
      ¬Wildcard.accepts pattern part = true := fun haccepts => h (.part hpart hmem haccepts)
  have haccepts : Wildcard.accepts pattern path = true := by
    rcases covers_iff.1 hcovers with ⟨part, hpart, hpartHidden⟩ | ⟨_, hpattern, hmatch⟩
    · exact absurd hpartHidden (hhidden hpart)
    · obtain rfl := List.mem_singleton.1 hpattern
      rcases hmatch with hwhole | ⟨part, hpart, hpartAccepts⟩
      · exact hwhole
      · exact absurd hpartAccepts (hrejected hpart)
  have hgoes : ¬Wildcard.GoesOn pattern := fun hgoes => h (.whole hmem hgoes haccepts)
  obtain ⟨name, hfirst, hslash, hname, hbelow⟩ := Wildcard.exists_rejected hgoes haccepts
  obtain ⟨t, ht⟩ := List.head?_eq_some_iff.1 hfirst
  have hempty : name.toList ≠ [] := by simp [ht]
  have hdot : name.toList ≠ ['.'] := by simp [ht]
  have hparts : (Path.ofText (path ++ "/" ++ name)).parts = (Path.ofText path).parts ++ [name] := by
    rw [Path.parts_below hpath, Path.segmentsOf_name hslash hempty hdot, String.ofList_toList]
  have hvisible : ¬isHidden name = true := by simp [isHidden, Text.beginsWith, ht]
  refine ⟨name, Path.isNormalized_name hslash hempty hdot, ?_⟩
  rw [← Bool.not_eq_true, covers_iff, hparts]
  simp only [List.mem_append, List.mem_singleton]
  rintro (⟨part, hpart | rfl, hpartHidden⟩ | ⟨_, rfl, hwhole | ⟨part, hpart | rfl, hpartAccepts⟩⟩)
  · exact hhidden hpart hpartHidden
  · exact hvisible hpartHidden
  · rw [hbelow] at hwhole
    exact Bool.false_ne_true hwhole
  · exact hrejected hpart hpartAccepts
  · rw [hname] at hpartAccepts
    exact Bool.false_ne_true hpartAccepts

/-- A path that is closed off is ignored with all that lies below it, and nothing below it is
collected. For one pattern the ignored paths that are closed off are just those below which
everything is ignored. -/
theorem covers_below (patterns : List String) {path : String} (hpath : Path.IsRelative path) :
    (ClosesOff patterns path → covers patterns path = true ∧
      ∀ rest, Path.IsNormalized rest → covers patterns (path ++ "/" ++ rest) = true) ∧
    (∀ disk docs c, (Collection.ofDisk disk docs patterns).result = .ok c →
      ClosesOff patterns path →
        ∀ rest, Path.IsNormalized rest → path ++ "/" ++ rest ∉ c.listed) ∧
    ∀ pattern, covers [pattern] path = true →
      ((∀ rest, Path.IsNormalized rest → covers [pattern] (path ++ "/" ++ rest) = true) ↔
        ClosesOff [pattern] path) := by
  refine ⟨fun h => ⟨h.covers, fun rest hrest => (h.below hpath hrest).covers⟩, ?_, ?_⟩
  · intro disk docs c hc h rest hrest hlisted
    obtain ⟨⟨_, entry⟩, hvisible, rfl⟩ :=
      List.mem_map.1 ((Collection.perm_listed hc).mem_iff.1 hlisted)
    have hcovers := (Collection.mem_visible.1 hvisible).1
    rw [(h.below hpath hrest).covers] at hcovers
    contradiction
  · intro pattern hcovers
    refine ⟨fun hall => ?_, fun h rest hrest => (h.below hpath hrest).covers⟩
    by_contra hopen
    obtain ⟨rest, hrest, hvisible⟩ := exists_visible_below hpath hcovers hopen
    rw [hall rest hrest] at hvisible
    contradiction

/-- What a pattern that ends with a star ignores, it ignores with all that lies below. -/
theorem ClosesOff.of_last_star {patterns : List String} {path pattern : String}
    (hpattern : pattern ∈ patterns) (hstar : pattern.toList.getLast? = some '*')
    (haccepts : Wildcard.accepts pattern path = true) : ClosesOff patterns path :=
  .whole hpattern (Wildcard.goesOn_of_last_star hstar) haccepts

/-- A document two directories deep. -/
def nested : Disk :=
  { entries := .ofList [(["docs"], .directory), (["docs", "a"], .directory),
      (["docs", "a", "b"], .directory), (["docs", "a", "b", "c.md"], .file [0x78])] }

theorem below_nested : nested.below ⟨"", ["docs"]⟩ =
    [(["a"], .directory), (["a", "b"], .directory), (["a", "b", "c.md"], .file [0x78])] := by
  have hresolve : nested.resolve? ⟨"", ["docs"]⟩ = some ["docs"] := by decide +kernel
  rw [Disk.below_of_resolve? hresolve]
  exact List.mergeSort_of_pairwise (by decide +kernel)

theorem isRelative_nested : Path.IsRelative "a/b" := ⟨'a', rfl, by decide⟩

theorem covers_below_nested : Path.IsRelative "a/b" ∧ ClosesOff ["a/*"] "a/b" ∧
    covers ["a/*"] "a/b" = true ∧ covers ["a/*"] ("a/b" ++ "/" ++ "c.md") = true ∧
    (∃ c, (Collection.ofDisk nested ⟨"", ["docs"]⟩ ["a/*"]).result = .ok c ∧
      "a/b" ++ "/" ++ "c.md" ∉ c.listed) ∧
    covers ["a/b"] "a/b" = true ∧ ¬ClosesOff ["a/b"] "a/b" := by
  have hmore : Path.IsNormalized "c.md" := by decide +kernel
  have hcloses : ClosesOff ["a/*"] "a/b" :=
    .of_last_star (List.mem_singleton_self _) rfl (by decide +kernel)
  have hc : (Collection.ofDisk nested ⟨"", ["docs"]⟩ ["a/*"]).result =
      .ok { directories := ["a"] } := by
    unfold Collection.ofDisk
    rw [below_nested]
    rfl
  have hcovers : covers ["a/b"] "a/b" = true := by decide +kernel
  have hvisible : covers ["a/b"] ("a/b" ++ "/" ++ "c.md") = false := by decide +kernel
  obtain ⟨hbelow, hlisted, hpattern⟩ := covers_below ["a/*"] isRelative_nested
  obtain ⟨hignored, hall⟩ := hbelow hcloses
  refine ⟨isRelative_nested, hcloses, hignored, hall _ hmore,
    ⟨_, hc, hlisted _ _ _ hc hcloses _ hmore⟩, hcovers, fun hother => ?_⟩
  have hfull := (hpattern "a/b" hcovers).2 hother "c.md" hmore
  rw [hvisible] at hfull
  contradiction

/-- A pattern for a directory below another ignores the directory and not what it holds. -/
theorem not_covers_below :
    (¬∀ patterns path rest, Path.IsRelative path → Path.IsNormalized rest →
      covers patterns path = true → covers patterns (path ++ "/" ++ rest) = true) ∧
    ∃ c, (Collection.ofDisk nested ⟨"", ["docs"]⟩ ["a/b"]).result = .ok c ∧
      covers ["a/b"] "a/b" = true ∧ "a/b/c.md" ∈ c.listed := by
  have hcovers : covers ["a/b"] "a/b" = true := by decide +kernel
  constructor
  · intro h
    have hmore : Path.IsNormalized "c.md" := by decide +kernel
    have hvisible : covers ["a/b"] ("a/b" ++ "/" ++ "c.md") = false := by decide +kernel
    rw [h _ _ _ isRelative_nested hmore hcovers] at hvisible
    contradiction
  · have hc : (Collection.ofDisk nested ⟨"", ["docs"]⟩ ["a/b"]).result =
        .ok { assets := [⟨"a/b/c.md", {}, "x"⟩], directories := ["a"] } := by
      unfold Collection.ofDisk
      rw [below_nested]
      rfl
    exact ⟨_, hc, hcovers, by decide⟩

end Ignore

end DocTrace
