import DocTrace.Proofs.Graph.Metadata

/-! The classification of identifiers. The first that a document writes stays, and a document
writes its own before those of its entities. A requirement without one of its own, and without a
requirement above it, is given the default where its document is reached, so the default stays there
unless a classification of the requirement was declared before. -/

namespace DocTrace.Graph

/-- A classification that a document writes, with where it comes from. -/
inductive Classification where
  | declared (text : String)
  | byDefault
deriving DecidableEq

namespace Classification

def text : Classification → String
  | .declared text => text
  | .byDefault => defaultClassification

def value (c : Classification) : Value := .str c.text

/-- The first classification of an identifier. -/
def first? (written : List (String × Classification)) (id : String) : Option Classification :=
  (written.find? fun w => w.1 = id).map (·.2)

theorem first?_append (written more : List (String × Classification)) (id : String) :
    first? (written ++ more) id = (first? written id).or (first? more id) := by
  simp [first?, List.find?_append, Option.map_or]

theorem mem_of_first? {written : List (String × Classification)} {id : String}
    {c : Classification} (h : first? written id = some c) : (id, c) ∈ written := by
  obtain ⟨w, hw, rfl⟩ := Option.map_eq_some_iff.1 h
  obtain rfl : w.1 = id := by simpa using List.find?_some hw
  exact List.mem_of_find?_eq_some hw

theorem exists_first?_of_mem {written : List (String × Classification)} {id : String}
    {c : Classification} (h : (id, c) ∈ written) : ∃ c', first? written id = some c' := by
  have hfound : (written.find? fun w => w.1 = id).isSome := by
    rw [List.find?_isSome]
    exact ⟨_, h, by simp⟩
  obtain ⟨w, hw⟩ := Option.isSome_iff_exists.1 hfound
  exact ⟨w.2, by rw [first?, hw]; rfl⟩

end Classification

open Classification

/-- What a document writes for its own identifier. -/
def ownClassification? (isMain : String → Bool) (a : Asset) (id : String) : Option Classification :=
  match a.header.classificationText with
  | some text => some (.declared text)
  | none => if Text.beginsWith "REQ_" id && isMain id then some .byDefault else none

def entityClassification? (e : Entity) : Option (String × Classification) :=
  (e.classification.filter (· ≠ "")).map fun text => (e.id, .declared text)

/-- The classifications that a document writes, in their order. -/
def classificationsOf (isMain : String → Bool) (a : Asset) : List (String × Classification) :=
  (a.id?.bind fun id => (ownClassification? isMain a id).map (id, ·)).toList ++
    a.header.entities.filterMap entityClassification?

/-! ### The first one stays -/

theorem noted_classification (metadata : String → String → Option Value) (id : String)
    (c : Classification) (rest : List (String × Classification)) (other : String) :
    ((noted metadata id classificationKey c.value other classificationKey).or
        ((first? rest other).map value)) =
      (metadata other classificationKey).or ((first? ((id, c) :: rest) other).map value) := by
  by_cases hid : other = id
  · subst hid
    have hfirst : first? ((other, c) :: rest) other = some c := by simp [first?]
    rw [hfirst, noted, if_pos ⟨rfl, rfl⟩]
    cases metadata other classificationKey <;> rfl
  · have hfirst : first? ((id, c) :: rest) other = first? rest other := by
      simp [first?, Ne.symm hid]
    rw [hfirst, noted, if_neg fun h => hid h.1]

theorem foldl_entityNoted (metadata : String → String → Option Value) (entities : List Entity)
    (id : String) :
    entities.foldl entityNoted metadata id classificationKey =
      (metadata id classificationKey).or
        ((first? (entities.filterMap entityClassification?) id).map value) := by
  induction entities generalizing metadata with
  | nil => simp [first?]
  | cons e rest ih =>
    rw [List.foldl_cons, ih]
    cases he : e.classification.filter (· ≠ "") with
    | none =>
      have hnone : entityClassification? e = none := by rw [entityClassification?, he]; rfl
      rw [List.filterMap_cons_none hnone, entityNoted, he]
    | some text =>
      have hsome : entityClassification? e = some (e.id, .declared text) := by
        rw [entityClassification?, he]
        rfl
      rw [List.filterMap_cons_some hsome, ← noted_classification, entityNoted, he]
      rfl

/-- A default that comes too late changes nothing, so it need not be looked whether it does. -/
theorem classified_classification (isMain : String → Bool)
    (metadata : String → String → Option Value) (a : Asset) (id other : String)
    (rest : List (String × Classification)) :
    (classified isMain metadata id a.header.classificationText other classificationKey).or
        ((first? rest other).map value) =
      (metadata other classificationKey).or
        ((first? (((ownClassification? isMain a id).map (id, ·)).toList ++ rest) other).map
          value) := by
  rw [ownClassification?]
  cases a.header.classificationText with
  | some text => exact noted_classification metadata id (.declared text) rest other
  | none =>
    dsimp only [classified]
    cases hmain : Text.beginsWith "REQ_" id && isMain id with
    | false =>
      have hnot : (Text.beginsWith "REQ_" id && (metadata id classificationKey).isNone &&
          isMain id) = false := by
        rw [Bool.and_right_comm, hmain, Bool.false_and]
      rw [if_neg (by simp [hnot])]
      rfl
    | true =>
      have hdefault : (if Text.beginsWith "REQ_" id && (metadata id classificationKey).isNone &&
            isMain id then noted metadata id classificationKey (.str defaultClassification)
          else metadata) other classificationKey =
            noted metadata id classificationKey (value .byDefault) other classificationKey := by
        rw [Bool.and_right_comm, hmain, Bool.true_and]
        split
        · rfl
        · next hnew =>
          obtain ⟨v, hv⟩ := Option.ne_none_iff_exists'.1 (by simpa using hnew)
          rw [noted]
          split
          · next hsame => rw [hsame.1, hv]; rfl
          · rfl
      rw [hdefault]
      exact noted_classification metadata id .byDefault rest other

theorem assetNoted_classification (isMain : String → Bool)
    (metadata : String → String → Option Value) (a : Asset) (id : String) :
    assetNoted isMain metadata a id classificationKey =
      (metadata id classificationKey).or
        ((first? (classificationsOf isMain a) id).map value) := by
  rw [assetNoted, foldl_entityNoted, classificationsOf]
  cases hid : a.id? with
  | none => rfl
  | some own =>
    have hroot : noted metadata own fileRootKey (.bool true) id classificationKey =
        metadata id classificationKey := by
      rw [noted, if_neg]
      exact fun h => absurd h.2 (by decide)
    dsimp only
    rw [classified_classification, hroot]
    rfl

theorem isMain_build (s : Sources) : (build s).1.isMain = s.implied.isMain := by
  rw [build_eq_stages]
  exact isMain_of_extends (.foldl_same extends_describeAsset s.implied s.documents)

/-- An identifier has the first classification that is written for it. -/
theorem classification_build (s : Sources) (id : String) :
    (build s).1.metadata? id classificationKey =
      (first? (s.documents.flatMap (classificationsOf (build s).1.isMain)) id).map value := by
  have hfold (isMain : String → Bool) (documents : List Asset)
      (metadata : String → String → Option Value) :
      documents.foldl (assetNoted isMain) metadata id classificationKey =
        (metadata id classificationKey).or
          ((first? (documents.flatMap (classificationsOf isMain)) id).map value) := by
    induction documents generalizing metadata with
    | nil => simp [first?]
    | cons a rest ih =>
      rw [List.foldl_cons, ih, assetNoted_classification, List.flatMap_cons, first?_append,
        Option.map_or, Option.or_assoc]
  rw [isMain_build, metadata?_build, hfold, Option.none_or]

/-! ### Declared and by default -/

/-- A document declares a classification, for its own identifier or for that of an entity. -/
def Classifies (a : Asset) (id text : String) : Prop :=
  a.id? = some id ∧ a.header.classificationText = some text ∨
    ∃ e ∈ a.header.entities, e.id = id ∧ e.classification = some text ∧ text ≠ ""

/-- A document is that of a requirement with no requirement above it, and has no classification of
its own. -/
structure LeavesToDefault (g : Graph) (a : Asset) (id : String) : Prop where
  own : a.id? = some id
  undeclared : a.header.classificationText = none
  isRequirement : Text.beginsWith "REQ_" id = true
  isMain : ∀ parent ∈ g.linkedUplinks id, Text.beginsWith "REQ_" parent = false

namespace Sources

variable (s : Sources)

def DeclaresClassification (id text : String) : Prop := ∃ a ∈ s.documents, Classifies a id text

/-- A document leaves the classification to the default before any declares one. -/
def DefaultsFirst (id : String) : Prop :=
  ∃ before a after, s.documents = before ++ a :: after ∧
    (∀ b ∈ before, ∀ text, ¬Classifies b id text) ∧ LeavesToDefault (build s).1 a id

end Sources

theorem declared_mem_iff {isMain : String → Bool} {a : Asset} {id text : String} :
    (id, .declared text) ∈ classificationsOf isMain a ↔ Classifies a id text := by
  have hown : (id, .declared text) ∈
      (a.id?.bind fun id => (ownClassification? isMain a id).map (id, ·)).toList ↔
        a.id? = some id ∧ a.header.classificationText = some text := by
    rw [Option.mem_toList, Option.bind_eq_some_iff]
    simp only [Option.map_eq_some_iff, Prod.mk.injEq, ownClassification?]
    cases a.header.classificationText with
    | some other => simp
    | none => simp
  have hentity : (id, .declared text) ∈ a.header.entities.filterMap entityClassification? ↔
      ∃ e ∈ a.header.entities, e.id = id ∧ e.classification = some text ∧ text ≠ "" := by
    simp only [List.mem_filterMap, entityClassification?, Option.map_eq_some_iff, Prod.mk.injEq,
      Classification.declared.injEq, Option.filter_eq_some_iff, decide_eq_true_eq]
    constructor
    · rintro ⟨e, he, _, ⟨hclass, hne⟩, hid, rfl⟩
      exact ⟨e, he, hid, hclass, hne⟩
    · rintro ⟨e, he, hid, hclass, hne⟩
      exact ⟨e, he, text, ⟨hclass, hne⟩, hid, rfl⟩
  rw [classificationsOf, List.mem_append, hown, hentity, Classifies]

theorem isMain_iff {g : Graph} {id : String} :
    g.isMain id = true ↔ ∀ parent ∈ g.linkedUplinks id, Text.beginsWith "REQ_" parent = false := by
  simp [isMain]

/-- The default stands first among what a document writes. -/
theorem byDefault_mem_iff {g : Graph} {a : Asset} {id : String} :
    (id, .byDefault) ∈ classificationsOf g.isMain a ↔ LeavesToDefault g a id := by
  have hentity : (id, .byDefault) ∉ a.header.entities.filterMap entityClassification? := by
    simp [entityClassification?]
  rw [classificationsOf, List.mem_append, or_iff_left hentity, Option.mem_toList,
    Option.bind_eq_some_iff]
  simp only [Option.map_eq_some_iff, Prod.mk.injEq, ownClassification?]
  constructor
  · rintro ⟨own, hid, c, hc, rfl, rfl⟩
    cases htext : a.header.classificationText with
    | some text => simp [htext] at hc
    | none =>
      simp only [htext, Option.ite_none_right_eq_some, Bool.and_eq_true] at hc
      exact ⟨hid, htext, hc.1.1, isMain_iff.1 hc.1.2⟩
  · intro h
    refine ⟨id, h.own, .byDefault, ?_, rfl, rfl⟩
    rw [h.undeclared]
    simp [h.isRequirement, isMain_iff.2 h.isMain]

theorem first?_of_leavesToDefault {g : Graph} {a : Asset} {id : String}
    (h : LeavesToDefault g a id) : first? (classificationsOf g.isMain a) id = some .byDefault := by
  have hown : ownClassification? g.isMain a id = some .byDefault := by
    rw [ownClassification?, h.undeclared]
    simp [h.isRequirement, isMain_iff.2 h.isMain]
  rw [classificationsOf, h.own, Option.bind_some, hown]
  simp [first?]

/-- The default is the first classification of an identifier exactly where it is written before any
is declared. -/
theorem first?_eq_byDefault_iff {g : Graph} {documents : List Asset} {id : String} :
    first? (documents.flatMap (classificationsOf g.isMain)) id = some .byDefault ↔
      ∃ before a after, documents = before ++ a :: after ∧
        (∀ b ∈ before, ∀ text, ¬Classifies b id text) ∧ LeavesToDefault g a id := by
  induction documents with
  | nil => simp [first?]
  | cons a rest ih =>
    rw [List.flatMap_cons, first?_append]
    cases hfirst : first? (classificationsOf g.isMain a) id with
    | none =>
      have hnone (c : Classification) : (id, c) ∉ classificationsOf g.isMain a := by
        intro hmem
        obtain ⟨c', hc'⟩ := exists_first?_of_mem hmem
        rw [hfirst] at hc'
        contradiction
      rw [Option.none_or, ih]
      constructor
      · rintro ⟨before, b, after, rfl, hbefore, hb⟩
        refine ⟨a :: before, b, after, rfl, List.forall_mem_cons.2 ⟨fun text ha => ?_, hbefore⟩, hb⟩
        exact hnone _ (declared_mem_iff.2 ha)
      · rintro ⟨_ | ⟨_, before⟩, b, after, hsplit, hbefore, hb⟩
        · obtain ⟨rfl, -⟩ := List.cons.inj hsplit
          exact absurd (byDefault_mem_iff.2 hb) (hnone _)
        · obtain ⟨-, hrest⟩ := List.cons.inj hsplit
          exact ⟨before, b, after, hrest, fun b hmem => hbefore b (.tail _ hmem), hb⟩
    | some c =>
      have hmem := mem_of_first? hfirst
      rw [Option.some_or, Option.some.injEq]
      constructor
      · rintro rfl
        exact ⟨[], a, rest, rfl, by simp, byDefault_mem_iff.1 hmem⟩
      · rintro ⟨_ | ⟨_, before⟩, b, after, hsplit, hbefore, hb⟩
        · obtain ⟨rfl, -⟩ := List.cons.inj hsplit
          exact Option.some.inj (hfirst.symm.trans (first?_of_leavesToDefault hb))
        · obtain ⟨rfl, -⟩ := List.cons.inj hsplit
          cases c with
          | byDefault => rfl
          | declared text =>
            exact absurd (declared_mem_iff.1 hmem) (hbefore _ (List.mem_cons_self ..) text)

/-- An identifier has a declared classification wherever one is declared, and none where none is,
unless a document leaves it to the default first: then it has the default. -/
theorem classification_declared_or_default (s : Sources) (id : String) :
    (s.DefaultsFirst id →
      (build s).1.metadata? id classificationKey = some (.str defaultClassification)) ∧
    (¬s.DefaultsFirst id → (∃ text, s.DeclaresClassification id text) →
      ∃ text, s.DeclaresClassification id text ∧
        (build s).1.metadata? id classificationKey = some (.str text)) ∧
    (¬s.DefaultsFirst id → (∀ text, ¬s.DeclaresClassification id text) →
      (build s).1.metadata? id classificationKey = none) := by
  have hdeclared (text : String) :
      (id, .declared text) ∈ s.documents.flatMap (classificationsOf (build s).1.isMain) ↔
        s.DeclaresClassification id text := by
    simp only [List.mem_flatMap, declared_mem_iff, Sources.DeclaresClassification]
  rw [Sources.DefaultsFirst, ← first?_eq_byDefault_iff, classification_build]
  refine ⟨fun hdefault => ?_, fun hnot => ?_, fun hnot hnone => ?_⟩
  · rw [hdefault]
    rfl
  · rintro ⟨text, htext⟩
    obtain ⟨c, hc⟩ := exists_first?_of_mem ((hdeclared text).2 htext)
    cases c with
    | byDefault => exact absurd hc hnot
    | declared first =>
      refine ⟨first, (hdeclared first).1 (mem_of_first? hc), ?_⟩
      rw [hc]
      rfl
  · cases hfirst : first? (s.documents.flatMap (classificationsOf (build s).1.isMain)) id with
    | none => rfl
    | some c =>
      cases c with
      | byDefault => exact absurd hfirst hnot
      | declared text => exact absurd ((hdeclared text).1 (mem_of_first? hfirst)) (hnone text)

def requirementNote : Asset :=
  { path := "a.md", header := { kind := .requirement, id := some "REQ_A" }, body := "" }

def componentNote : Asset :=
  { path := "b.md"
    header :=
      { id := some "COMP_B", entities := [{ id := "REQ_A", classification := some "Security" }] }
    body := "" }

theorem classification_declared_or_default_notes :
    (({ assets := [requirementNote, componentNote] } : Sources).DefaultsFirst "REQ_A" ∧
      (build { assets := [requirementNote, componentNote] }).1.metadata? "REQ_A" classificationKey =
        some (.str defaultClassification)) ∧
    (¬({ assets := [componentNote, requirementNote] } : Sources).DefaultsFirst "REQ_A" ∧
      ({ assets := [componentNote, requirementNote] } : Sources).DeclaresClassification "REQ_A"
        "Security" ∧
      ∃ text, ({ assets := [componentNote, requirementNote] } : Sources).DeclaresClassification
        "REQ_A" text ∧
          (build { assets := [componentNote, requirementNote] }).1.metadata? "REQ_A"
            classificationKey = some (.str text)) ∧
    ¬({ assets := [componentNote] } : Sources).DefaultsFirst "COMP_B" ∧
      (∀ text, ¬({ assets := [componentNote] } : Sources).DeclaresClassification "COMP_B" text) ∧
      (build { assets := [componentNote] }).1.metadata? "COMP_B" classificationKey = none := by
  have hfirst : ({ assets := [requirementNote, componentNote] } : Sources).DefaultsFirst "REQ_A" :=
    first?_eq_byDefault_iff.1 (by decide +kernel)
  have hlater : ¬({ assets := [componentNote, requirementNote] } : Sources).DefaultsFirst
      "REQ_A" := by
    rw [Sources.DefaultsFirst, ← first?_eq_byDefault_iff]
    decide +kernel
  have hdeclared : ({ assets := [componentNote, requirementNote] } :
      Sources).DeclaresClassification "REQ_A" "Security" := by
    refine ⟨componentNote, List.mem_filter.2 ⟨List.mem_cons_self .., by decide +kernel⟩, ?_⟩
    exact .inr ⟨_, List.mem_cons_self .., rfl, rfl, by decide⟩
  have hcomponent : ¬({ assets := [componentNote] } : Sources).DefaultsFirst "COMP_B" := by
    rw [Sources.DefaultsFirst, ← first?_eq_byDefault_iff]
    decide +kernel
  have hsilent (text : String) :
      ¬({ assets := [componentNote] } : Sources).DeclaresClassification "COMP_B" text := by
    rintro ⟨a, ha, hclass⟩
    obtain rfl : a = componentNote := List.mem_singleton.1 (List.mem_filter.1 ha).1
    rcases hclass with ⟨-, htext⟩ | ⟨e, he, hid, -⟩
    · exact absurd htext (by simp [componentNote, Header.classificationText, Header.get?])
    · rw [List.mem_singleton.1 he] at hid
      exact absurd hid (by decide)
  refine ⟨⟨hfirst, (classification_declared_or_default _ _).1 hfirst⟩, ⟨hlater, hdeclared, ?_⟩,
    hcomponent, hsilent, (classification_declared_or_default _ _).2.2 hcomponent hsilent⟩
  exact (classification_declared_or_default _ _).2.1 hlater ⟨_, hdeclared⟩

end DocTrace.Graph
