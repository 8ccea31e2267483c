import DocTrace.Evaluation
import DocTrace.Proofs.Graph.Registry
import Mathlib.Data.List.Induction

/-! The registry of a project in terms of its documents: the identifiers in the order of their
first declaration, the file of each, and all files of those that several documents declare.
Documents are told apart by their paths. -/

namespace DocTrace

theorem foldl_addNew_eq_eraseDups [DecidableEq α] (items : List α) :
    items.foldl addNew [] = items.eraseDups := by
  induction items using List.reverseRecOn with
  | nil => rfl
  | append_singleton items item ih =>
    rw [List.foldl_append, ih, List.eraseDups_append, List.foldl_cons, List.foldl_nil, addNew]
    by_cases hitem : item ∈ items
    · have hremoved : [item].removeAll items = [] := by simp [List.removeAll, hitem]
      rw [if_pos (by simpa using hitem), hremoved, List.eraseDups_nil, List.append_nil]
    · have hremoved : [item].removeAll items = [item] := by simp [List.removeAll, hitem]
      rw [if_neg (by simpa using hitem), hremoved]
      rfl

theorem mem_eraseDups [DecidableEq α] {items : List α} {item : α} :
    item ∈ items.eraseDups ↔ item ∈ items := by
  rw [← foldl_addNew_eq_eraseDups, mem_foldl_addNew]
  simp

/-- Whether a file can be addressed by a name that it need not declare. -/
def Asset.offers (a : Asset) (id : String) : Bool :=
  a.isNote && a.stem = id || a.isFootnote && a.id? = some id

namespace Graph

theorem contains_aliasesOf (a : Asset) (id : String) :
    (aliasesOf a).contains id = a.offers id := by
  have hnote : id ∈ (if a.isNote then [a.stem] else []) ↔ a.isNote = true ∧ a.stem = id := by
    split
    · next h => simp [h, eq_comm]
    · next h => simp [h]
  have hfootnote : id ∈ (if a.isFootnote then a.id?.toList else []) ↔
      a.isFootnote = true ∧ a.id? = some id := by
    split
    · next h => simp [h]
    · next h => simp [h]
  rw [Bool.eq_iff_iff, List.contains_iff_mem, aliasesOf, List.mem_append, hnote, hfootnote,
    Asset.offers]
  simp

/-! ### The first file for an identifier -/

theorem firstFile_append (files others : List (String × String)) (id : String) :
    firstFile (files ++ others) id = (firstFile files id).or (firstFile others id) := by
  induction files with
  | nil => rfl
  | cons e rest ih => rw [List.cons_append, firstFile_cons, ih, firstFile_cons, Option.or_assoc]

theorem firstFile_names (names : List String) (file id : String) :
    firstFile (names.map (·, file)) id = if names.contains id then some file else none := by
  induction names with
  | nil => rfl
  | cons name rest ih =>
    rw [List.map_cons, firstFile_cons, ih]
    by_cases hname : name = id
    · simp [hname]
    · simp [hname, Ne.symm hname]

theorem firstFile_flatMap (names : Asset → List String) (assets : List Asset) (id : String) :
    firstFile (assets.flatMap fun a => (names a).map (·, a.path)) id =
      (assets.find? fun a => (names a).contains id).map (·.path) := by
  induction assets with
  | nil => rfl
  | cons a rest ih =>
    rw [List.flatMap_cons, firstFile_append, firstFile_names, ih, List.find?_cons]
    cases (names a).contains id <;> rfl

/-! ### Keys in the order of their first registration -/

theorem keys_register (g : Graph) (id file : String) :
    (g.register id file).1.idToFile.keys = addNew g.idToFile.keys id := by
  unfold register
  split
  · next hnew =>
    have hkey := Table.find?_eq_none_iff.1 hnew
    rw [Table.keys_put, if_neg hkey, addNew, if_neg (by simpa using hkey)]
  · next first hfirst =>
    have hkey : id ∈ g.idToFile.keys := Table.find?_isSome_iff.1 (by simp [hfirst])
    rw [addNew_of_mem hkey]
    split <;> rfl

theorem keys_addAlias (g : Graph) (id file : String) :
    (g.addAlias id file).idToFile.keys = addNew g.idToFile.keys id := by
  unfold addAlias isDeclared
  by_cases hkey : id ∈ g.idToFile.keys
  · rw [if_pos (Table.contains_iff.2 hkey), addNew_of_mem hkey]
  · rw [if_neg fun h => hkey (Table.contains_iff.1 h), Table.keys_put, if_neg hkey, addNew,
      if_neg (by simpa using hkey)]

theorem keys_foldl {step : Graph → String × String → Graph}
    (hstep : ∀ g e, (step g e).idToFile.keys = addNew g.idToFile.keys e.1) (g : Graph)
    (files : List (String × String)) :
    (files.foldl step g).idToFile.keys = (files.map (·.1)).foldl addNew g.idToFile.keys := by
  induction files generalizing g with
  | nil => rfl
  | cons e rest ih => rw [List.foldl_cons, ih, hstep, List.map_cons, List.foldl_cons]

variable (s : Sources)

theorem keys_registered :
    s.registered.idToFile.keys = (s.declarations.map (·.1)).eraseDups := by
  rw [Sources.registered, registerAll_eq_foldl, keys_foldl fun g e => keys_register g e.1 e.2,
    ← foldl_addNew_eq_eraseDups]
  rfl

/-- Declared identifiers come first. -/
theorem keys_build :
    (build s).1.idToFile.keys =
      (s.aliases.map (·.1)).foldl addNew (s.declarations.map (·.1)).eraseDups := by
  have hbuilt : (build s).1.idToFile = s.addressed.idToFile := congrArg (·.1) (registry_build s)
  have hdrawn : s.drawn.idToFile = s.registered.idToFile := congrArg (·.1) (registry_drawn s)
  rw [hbuilt, Sources.addressed, keys_foldl fun g e => keys_addAlias g e.1 e.2, hdrawn,
    keys_registered]

theorem declaredIds_build :
    (build s).1.declaredIds = (s.documents.flatMap (·.header.allIds)).eraseDups := by
  have hprefix := prefix_foldl_addNew (s.declarations.map (·.1)).eraseDups (s.aliases.map (·.1))
  obtain ⟨others, hothers⟩ := hprefix
  have hdistinct : ((s.declarations.map (·.1)).eraseDups ++ others).Nodup := by
    rw [hothers, ← keys_build]
    exact (build s).1.idToFile.distinct
  have hkept : ∀ id ∈ (s.declarations.map (·.1)).eraseDups, id ∉ (build s).1.stemIds := by
    intro id hid hstem
    exact ((mem_stemIds_build s id).1 hstem).1 (mem_eraseDups.1 hid)
  -- What comes after the declared identifiers is in no document, and so only a further name.
  have hdropped : ∀ id ∈ others, id ∈ (build s).1.stemIds := by
    intro id hid
    have hnew : id ∉ (s.declarations.map (·.1)).eraseDups := fun h =>
      (List.nodup_append.1 hdistinct).2.2 id h id hid rfl
    have hmem : id ∈ (s.aliases.map (·.1)).foldl addNew (s.declarations.map (·.1)).eraseDups := by
      rw [← hothers]
      exact List.mem_append_right _ hid
    refine (mem_stemIds_build s id).2 ⟨fun h => hnew (mem_eraseDups.2 h), ?_⟩
    exact (mem_foldl_addNew.1 hmem).resolve_left hnew
  rw [declaredIds, keys_build, ← hothers, List.filter_append,
    List.filter_eq_self.2 (by simpa using hkept), List.filter_eq_nil_iff.2 (by simpa using hdropped),
    List.append_nil, Sources.map_fst_declarations]

/-! ### Files and further names -/

theorem find?_idToFile_build (id : String) :
    (build s).1.idToFile.find? id =
      ((s.documents.find? fun a => a.header.allIds.contains id).or
        (s.assets.find? (·.offers id))).map (·.path) := by
  have hoffered := firstFile_flatMap aliasesOf s.assets id
  simp only [contains_aliasesOf] at hoffered
  rw [find?_build, Sources.declarations, firstFile_flatMap, Sources.aliases, hoffered,
    Option.map_or]

theorem mem_stemIds_iff (id : String) :
    id ∈ (build s).1.stemIds ↔
      (∃ a ∈ s.assets, a.offers id = true) ∧ ∀ a ∈ s.documents, id ∉ a.header.allIds := by
  have hdeclared : id ∉ s.declarations.map (·.1) ↔ ∀ a ∈ s.documents, id ∉ a.header.allIds := by
    rw [Sources.map_fst_declarations, List.mem_flatMap]
    simp
  have hoffered : id ∈ s.aliases.map (·.1) ↔ ∃ a ∈ s.assets, a.offers id = true := by
    simp [Sources.aliases, ← contains_aliasesOf]
  rw [mem_stemIds_build, hdeclared, hoffered, and_comm]

theorem mem_stemIds_iff_undeclared (id : String) :
    id ∈ (build s).1.stemIds ↔
      id ∈ (build s).1.idToFile.keys ∧ id ∉ (build s).1.declaredIds := by
  have hkeys : id ∈ (build s).1.idToFile.keys ↔ (build s).1.isDeclared id = true :=
    Table.contains_iff.symm
  rw [hkeys, isDeclared_build, mem_stemIds_build, mem_declaredIds_build]
  constructor
  · rintro ⟨hnot, halias⟩
    exact ⟨.inr halias, hnot⟩
  · rintro ⟨hdeclared | halias, hnot⟩
    · exact absurd hdeclared hnot
    · exact ⟨hnot, halias⟩

/-! ### Collisions -/

/-- The files that register an identifier, each once. -/
def filesFor (files : List (String × String)) (id : String) : List String :=
  ((files.filter (·.1 = id)).map (·.2)).foldl addNew []

theorem filesFor_append (files : List (String × String)) (e : String × String) (id : String) :
    filesFor (files ++ [e]) id =
      if e.1 = id then addNew (filesFor files id) e.2 else filesFor files id := by
  rw [filesFor, List.filter_append]
  by_cases he : e.1 = id <;> simp [he, filesFor]

theorem head?_addNew (files : List String) (file : String) :
    (addNew files file).head? = files.head?.or (some file) := by
  cases files with
  | nil => rfl
  | cons first others => unfold addNew; split <;> rfl

theorem two_le_length_addNew {first file : String} (hother : first ≠ file)
    (others : List String) : 2 ≤ (addNew (first :: others) file).length := by
  unfold addNew
  split
  · next hmem =>
    have hrest : file ∈ others := by simpa [Ne.symm hother] using hmem
    have hpos := List.length_pos_of_mem hrest
    rw [List.length_cons]
    omega
  · simp

/-- What a graph knows once some identifiers are registered. -/
structure Registers (g : Graph) (files : List (String × String)) : Prop where
  first : ∀ id, g.idToFile.find? id = (filesFor files id).head?
  duplicates : ∀ id, g.duplicates.find? id =
    if 2 ≤ (filesFor files id).length then some (filesFor files id) else none

theorem find?_duplicates_register_of_ne (g : Graph) {id other : String} (h : id ≠ other)
    (file : String) :
    (g.register id file).1.duplicates.find? other = g.duplicates.find? other := by
  unfold register
  split
  · rfl
  · split
    · rfl
    · rw [Table.find?_put, if_neg h.symm]

/-- A file that is not the first joins the files known so far, whether or not this is the first
collision. -/
theorem find?_duplicates_register {g : Graph} {files : List (String × String)}
    (hg : Registers g files) (id file : String) :
    (g.register id file).1.duplicates.find? id =
      if 2 ≤ (addNew (filesFor files id) file).length then some (addNew (filesFor files id) file)
      else none := by
  have hfirst := hg.first id
  have hduplicates := hg.duplicates id
  unfold register
  cases hfound : filesFor files id with
  | nil =>
    rw [hfound] at hfirst hduplicates
    simpa [hfirst, addNew] using hduplicates
  | cons first others =>
    rw [hfound] at hfirst hduplicates
    simp only [hfirst, List.head?_cons]
    by_cases hsame : first = file
    · rw [if_pos hsame, addNew_of_mem (hsame ▸ List.mem_cons_self ..), hduplicates]
    · have hknown : (g.duplicates.find? id).getD [first] = first :: others := by
        rw [hduplicates]
        cases others with
        | nil => rfl
        | cons second rest => rw [if_pos (by simp)]; rfl
      rw [if_neg hsame, hknown, Table.find?_put, if_pos rfl,
        if_pos (two_le_length_addNew hsame others)]

theorem registers_register {g : Graph} {files : List (String × String)} (hg : Registers g files)
    (e : String × String) : Registers (g.register e.1 e.2).1 (files ++ [e]) := by
  obtain ⟨id, file⟩ := e
  constructor
  · intro other
    rw [find?_register, hg.first, filesFor_append]
    by_cases hother : id = other
    · rw [if_pos hother, if_pos hother, head?_addNew]
    · rw [if_neg hother, if_neg hother, Option.or_none]
  · intro other
    rw [filesFor_append]
    by_cases hother : id = other
    · subst hother
      rw [if_pos rfl, find?_duplicates_register hg]
    · rw [if_neg hother, find?_duplicates_register_of_ne g hother, hg.duplicates]

theorem registers_foldl (g : Graph) (known files : List (String × String))
    (hg : Registers g known) :
    Registers (files.foldl (fun g e => (g.register e.1 e.2).1) g) (known ++ files) := by
  induction files generalizing g known with
  | nil => rwa [List.append_nil]
  | cons e rest ih =>
    have hrest := ih _ (known ++ [e]) (registers_register hg e)
    rwa [List.append_assoc] at hrest

theorem registers_registered : Registers s.registered s.declarations := by
  have hstart : Registers (start s) [] := ⟨fun _ => rfl, fun _ => rfl⟩
  rw [Sources.registered, registerAll_eq_foldl]
  exact registers_foldl (start s) [] s.declarations hstart

/-- The files of the documents that declare an identifier. -/
def Sources.declaring (s : Sources) (id : String) : List String :=
  ((s.documents.filter fun a => a.header.allIds.contains id).map (·.path)).eraseDups

theorem filesFor_declarations (id : String) : filesFor s.declarations id = s.declaring id := by
  have hown (a : Asset) : ((a.header.allIds.map (·, a.path)).filter (·.1 = id)).map (·.2) =
      List.replicate (a.header.allIds.count id) a.path := by
    rw [List.filter_map, List.map_map, List.count_eq_length_filter, List.eq_replicate_iff]
    refine ⟨?_, by simp⟩
    rw [List.length_map]
    congr 1
  have hlisting := foldl_addNew_listing (fun a : Asset => a.header.allIds) (·.path) s.documents id []
  rw [filesFor, Sources.declarations, List.filter_flatMap, List.map_flatMap, Sources.declaring,
    ← foldl_addNew_eq_eraseDups, ← hlisting]
  simp only [hown]

theorem find?_duplicates_build (id : String) :
    (build s).1.duplicates.find? id =
      if 2 ≤ (s.declaring id).length then some (s.declaring id) else none := by
  have hbuilt : (build s).1.duplicates = s.addressed.duplicates :=
    congrArg (·.2.2) (registry_build s)
  have haddressed : s.addressed.duplicates = s.drawn.duplicates :=
    addressed_same (fun _ _ _ => rfl) s
  have hdrawn : s.drawn.duplicates = s.registered.duplicates :=
    congrArg (·.2.2) (registry_drawn s)
  rw [hbuilt, haddressed, hdrawn, (registers_registered s).duplicates, filesFor_declarations]

/-- The finding for an identifier that several files declare. -/
def declaredInMany (id : String) (files : List String) : Finding :=
  { message := "Identifier " ++ Finding.quoted id ++ " is declared in multiple files: " ++
      Text.joinWith ", " files
    file := files.head?
    id := some id }

def collisions (g : Graph) : List Finding :=
  g.duplicates.entries.map fun e => declaredInMany e.1 e.2

theorem report_duplicateIds (g : Graph) (a : Option Asset) :
    Rule.Named.report g a .duplicateIds = .ok g.collisions := rfl

theorem nodup_collisions (g : Graph) : (g.collisions.map (·.id)).Nodup := by
  have hids : g.collisions.map (·.id) = g.duplicates.keys.map some := by
    simp [collisions, Table.keys, declaredInMany, Function.comp_def]
  rw [hids]
  exact List.Nodup.map (fun _ _ => Option.some.inj) g.duplicates.distinct

theorem mem_collisions {g : Graph} {f : Finding} :
    f ∈ g.collisions ↔
      ∃ id files, g.duplicates.find? id = some files ∧ f = declaredInMany id files := by
  simp only [collisions, List.mem_map, Prod.exists, Table.find?_eq_some_iff, @eq_comm _ f]

theorem mem_collisions_build (f : Finding) :
    f ∈ (build s).1.collisions ↔
      ∃ id, 2 ≤ (s.declaring id).length ∧ f = declaredInMany id (s.declaring id) := by
  rw [mem_collisions]
  refine exists_congr fun id => ?_
  rw [find?_duplicates_build]
  split
  · next hmany => simp [hmany]
  · next hsingle => simp [hsingle]

/-- Declared identifiers stand in the order of their first declaration. Each belongs to the first
document that declares it, and any other name to the first file that offers it. An identifier
collides exactly if documents with different paths declare it, and is reported once, with all of
them. -/
theorem registry_of_documents (s : Sources) :
    let g := (build s).1
    (g.declaredIds = (s.documents.flatMap (·.header.allIds)).eraseDups ∧
      ∀ id, g.idToFile.find? id =
        ((s.documents.find? fun a => a.header.allIds.contains id).or
          (s.assets.find? (·.offers id))).map (·.path)) ∧
    (∀ id, g.duplicates.find? id =
      if 2 ≤ (s.declaring id).length then some (s.declaring id) else none) ∧
    (∀ id, (id ∈ g.stemIds ↔ id ∈ g.idToFile.keys ∧ id ∉ g.declaredIds) ∧
      (id ∈ g.stemIds ↔
        (∃ a ∈ s.assets, a.offers id = true) ∧ ∀ a ∈ s.documents, id ∉ a.header.allIds)) ∧
    ∃ findings, (∀ a, Rule.Named.report g a .duplicateIds = .ok findings) ∧
      (findings.map (·.id)).Nodup ∧
      ∀ f, f ∈ findings ↔
        ∃ id, 2 ≤ (s.declaring id).length ∧ f = declaredInMany id (s.declaring id) := by
  intro g
  have hdeclared := declaredIds_build s
  have hfiles := find?_idToFile_build s
  have hduplicates := find?_duplicates_build s
  have hstems (id : String) := And.intro (mem_stemIds_iff_undeclared s id) (mem_stemIds_iff s id)
  exact ⟨⟨hdeclared, hfiles⟩, hduplicates, hstems, g.collisions, report_duplicateIds g,
    nodup_collisions g, mem_collisions_build s⟩

end Graph

end DocTrace
