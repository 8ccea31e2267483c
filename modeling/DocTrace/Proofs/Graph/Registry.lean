import DocTrace.Proofs.Graph.Mentions
import Mathlib.Data.List.Nodup
import Mathlib.Data.List.Perm.Basic

/-! Which identifiers the graph of a project has files for. The first file for an identifier
stays, whether it declares the identifier or is only called by it. -/

namespace DocTrace.Graph

def firstFile (files : List (String × String)) (id : String) : Option String :=
  (files.find? (·.1 = id)).map (·.2)

theorem firstFile_cons (e : String × String) (rest : List (String × String)) (id : String) :
    firstFile (e :: rest) id = (if e.1 = id then some e.2 else none).or (firstFile rest id) := by
  by_cases he : e.1 = id <;> simp [firstFile, he]

theorem firstFile_isSome {files : List (String × String)} {id : String} :
    (firstFile files id).isSome ↔ id ∈ files.map (·.1) := by
  simp [firstFile]

/-- Among distinct identifiers the place in the list does not matter. -/
theorem firstFile_eq_some_iff {files : List (String × String)}
    (hdistinct : (files.map (·.1)).Nodup) {id file : String} :
    firstFile files id = some file ↔ (id, file) ∈ files :=
  Table.find?_eq_some_iff (t := ⟨files, hdistinct⟩)

theorem firstFile_perm {files others : List (String × String)}
    (hdistinct : (files.map (·.1)).Nodup) (hperm : files.Perm others) :
    firstFile files = firstFile others := by
  have hothers : (others.map (·.1)).Nodup := (hperm.map _).nodup_iff.1 hdistinct
  funext id
  apply Option.ext
  intro file
  rw [firstFile_eq_some_iff hdistinct, firstFile_eq_some_iff hothers, hperm.mem_iff]

/-- Steps that each add a file unless there is one come to the first file. -/
theorem find?_foldl_first {step : Graph → String × String → Graph}
    (hstep : ∀ g e id, (step g e).idToFile.find? id =
      (g.idToFile.find? id).or (if e.1 = id then some e.2 else none))
    (g : Graph) (files : List (String × String)) (id : String) :
    (files.foldl step g).idToFile.find? id = (g.idToFile.find? id).or (firstFile files id) := by
  induction files generalizing g with
  | nil => exact (Option.or_none ..).symm
  | cons e rest ih => rw [List.foldl_cons, ih, hstep, firstFile_cons, Option.or_assoc]

theorem find?_register (g : Graph) (id file other : String) :
    (g.register id file).1.idToFile.find? other =
      (g.idToFile.find? other).or (if id = other then some file else none) := by
  unfold register
  split
  · next hnew =>
    rw [Table.find?_put]
    by_cases hid : id = other
    · rw [if_pos hid.symm, if_pos hid, ← hid, hnew]
      rfl
    · rw [if_neg (Ne.symm hid), if_neg hid, Option.or_none]
  · next first hfirst =>
    have hsame : g.idToFile.find? other =
        (g.idToFile.find? other).or (if id = other then some file else none) := by
      by_cases hid : id = other
      · rw [← hid, hfirst]
        rfl
      · rw [if_neg hid, Option.or_none]
    split <;> exact hsame

theorem isDeclared_eq (g : Graph) (id : String) :
    g.isDeclared id = (g.idToFile.find? id).isSome := Table.contains_eq_isSome ..

theorem mem_declaredIds (g : Graph) (id : String) :
    id ∈ g.declaredIds ↔ g.isDeclared id = true ∧ id ∉ g.stemIds := by
  rw [declaredIds, List.mem_filter, isDeclared, Table.contains_iff]
  simp

theorem nodup_declaredIds (g : Graph) : g.declaredIds.Nodup := g.idToFile.distinct.filter _

theorem find?_addAlias (g : Graph) (id file other : String) :
    (g.addAlias id file).idToFile.find? other =
      (g.idToFile.find? other).or (if id = other then some file else none) := by
  unfold addAlias
  by_cases hid : id = other
  · subst hid
    rw [isDeclared_eq]
    cases hfound : g.idToFile.find? id with
    | none => simp [Table.find?_put]
    | some first => simp [hfound]
  · rw [if_neg hid, Option.or_none]
    split
    · rfl
    · rw [Table.find?_put, if_neg (Ne.symm hid)]

theorem mem_stemIds_foldl (g : Graph) (files : List (String × String)) (id : String) :
    id ∈ (files.foldl (fun g e => g.addAlias e.1 e.2) g).stemIds ↔
      id ∈ g.stemIds ∨ g.isDeclared id = false ∧ id ∈ files.map (·.1) := by
  induction files generalizing g with
  | nil => simp
  | cons e rest ih =>
    have hdeclared : (g.addAlias e.1 e.2).isDeclared id = (g.isDeclared id || e.1 = id) := by
      rw [isDeclared_eq, find?_addAlias, isDeclared_eq]
      cases g.idToFile.find? id <;> by_cases he : e.1 = id <;> simp [he]
    have hstems : id ∈ (g.addAlias e.1 e.2).stemIds ↔
        id ∈ g.stemIds ∨ g.isDeclared id = false ∧ id = e.1 := by
      unfold addAlias
      by_cases hknown : g.isDeclared e.1 = true
      · rw [if_pos hknown]
        exact ⟨.inl, fun h => h.elim (fun h => h) fun h => by simp [h.2, hknown] at h⟩
      · rw [if_neg hknown]
        refine mem_addNew.trans (or_congr_right ⟨fun h => ⟨?_, h⟩, fun h => h.2⟩)
        simpa [h] using hknown
    rw [List.foldl_cons, ih, hstems, hdeclared, List.map_cons, List.mem_cons]
    by_cases he : e.1 = id
    · subst he
      simp
    · simp [he, Ne.symm he]

/-! ### The registry of a project -/

def registry (g : Graph) : Table String String × List String × Table String (List String) :=
  (g.idToFile, g.stemIds, g.duplicates)

theorem registry_build (s : Sources) : (build s).1.registry = s.addressed.registry :=
  (build_same (fun _ _ _ _ => rfl) s).trans
    (implied_same (fun _ _ => rfl) (fun _ _ _ => rfl) s)

theorem registry_drawn (s : Sources) : s.drawn.registry = s.registered.registry :=
  drawn_same (fun _ _ => rfl) (fun _ _ _ => rfl) (fun _ _ _ => rfl) (fun _ _ _ => rfl) s

theorem stemIds_registered (s : Sources) : s.registered.stemIds = [] :=
  registered_same (fun _ _ _ => rfl) s

variable (s : Sources)

theorem Sources.map_fst_declarations (s : Sources) :
    s.declarations.map (·.1) = s.documents.flatMap (·.header.allIds) := by
  simp [Sources.declarations, List.map_flatMap, Function.comp_def]

theorem find?_registered (id : String) :
    s.registered.idToFile.find? id = firstFile s.declarations id := by
  rw [Sources.registered, registerAll_eq_foldl,
    find?_foldl_first fun g e => find?_register g e.1 e.2]
  rfl

theorem find?_drawn (id : String) : s.drawn.idToFile.find? id = firstFile s.declarations id := by
  have hfiles : s.drawn.idToFile = s.registered.idToFile := congrArg (·.1) (registry_drawn s)
  rw [hfiles, find?_registered]

/-- The file of an identifier: the first that declares it, or else the first called by it. -/
theorem find?_build (id : String) :
    (build s).1.idToFile.find? id =
      (firstFile s.declarations id).or (firstFile s.aliases id) := by
  have hfiles : (build s).1.idToFile = s.addressed.idToFile := congrArg (·.1) (registry_build s)
  rw [hfiles, Sources.addressed, find?_foldl_first fun g e => find?_addAlias g e.1 e.2, find?_drawn]

theorem isDeclared_build (id : String) :
    (build s).1.isDeclared id = true ↔
      id ∈ s.declarations.map (·.1) ∨ id ∈ s.aliases.map (·.1) := by
  rw [isDeclared_eq, find?_build, Option.isSome_or, Bool.or_eq_true, firstFile_isSome,
    firstFile_isSome]

theorem mem_stemIds_build (id : String) :
    id ∈ (build s).1.stemIds ↔
      id ∉ s.declarations.map (·.1) ∧ id ∈ s.aliases.map (·.1) := by
  have hstems : (build s).1.stemIds = s.addressed.stemIds := congrArg (·.2.1) (registry_build s)
  have hdrawn : s.drawn.stemIds = s.registered.stemIds := congrArg (·.2.1) (registry_drawn s)
  have hdeclared : s.drawn.isDeclared id = false ↔ id ∉ s.declarations.map (·.1) := by
    rw [isDeclared_eq, find?_drawn, ← firstFile_isSome, Bool.not_eq_true]
  rw [hstems, Sources.addressed, mem_stemIds_foldl, hdrawn, stemIds_registered, hdeclared]
  simp

theorem mem_declaredIds_build (id : String) :
    id ∈ (build s).1.declaredIds ↔ id ∈ s.declarations.map (·.1) := by
  rw [mem_declaredIds, isDeclared_build, mem_stemIds_build]
  constructor
  · rintro ⟨hdeclared | halias, hstem⟩
    · exact hdeclared
    · by_contra hnot
      exact hstem ⟨hnot, halias⟩
  · intro hdeclared
    exact ⟨.inl hdeclared, fun hstem => hstem.1 hdeclared⟩

theorem duplicates_foldl_register (g : Graph) (files : List (String × String))
    (hdistinct : (g.idToFile.keys ++ files.map (·.1)).Nodup) :
    (files.foldl (fun g e => (g.register e.1 e.2).1) g).duplicates = g.duplicates := by
  induction files generalizing g with
  | nil => rfl
  | cons e rest ih =>
    have hnew : g.idToFile.find? e.1 = none := by
      refine Table.find?_eq_none_iff.2 fun hkey => ?_
      exact (List.nodup_append.1 hdistinct).2.2 _ hkey _ (List.mem_cons_self ..) rfl
    have hfirst : (g.register e.1 e.2).1 = { g with idToFile := g.idToFile.put e.1 e.2 } := by
      rw [register, hnew]
    have hkeys : (g.idToFile.put e.1 e.2).keys = g.idToFile.keys ++ [e.1] := by
      rw [Table.keys_put, if_neg (Table.find?_eq_none_iff.1 hnew)]
    rw [List.foldl_cons, hfirst]
    refine ih { g with idToFile := g.idToFile.put e.1 e.2 } ?_
    simpa [hkeys] using hdistinct

theorem duplicates_build (hdistinct : (s.declarations.map (·.1)).Nodup) :
    (build s).1.duplicates = {} := by
  have hbuilt : (build s).1.duplicates = s.addressed.duplicates :=
    congrArg (·.2.2) (registry_build s)
  have haddressed : s.addressed.duplicates = s.drawn.duplicates :=
    addressed_same (fun _ _ _ => rfl) s
  have hdrawn : s.drawn.duplicates = s.registered.duplicates :=
    congrArg (·.2.2) (registry_drawn s)
  rw [hbuilt, haddressed, hdrawn, Sources.registered, registerAll_eq_foldl]
  exact duplicates_foldl_register (start s) s.declarations hdistinct

end DocTrace.Graph
