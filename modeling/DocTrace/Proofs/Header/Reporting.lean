import DocTrace.Proofs.Header.Parsing
import Mathlib.Data.List.Forall2
import Mathlib.Data.List.ReduceOption

/-! What becomes of the fields of a header. Each is read, or missing, or reported with its name and
its place; the items of a list and the entities are reported with their index. The errors of a field
are found among those of the whole header by the field that they are about, as no two fields have
the same place and name. -/

namespace DocTrace

namespace HeaderError

/-- The place and the name of the field that an error is about. -/
def field? : HeaderError → Option (Option Nat × String)
  | .notText place key _ => some (place, key)
  | .notList place key => some (place, key)
  | .badItem place key _ => some (place, key)
  | _ => none

/-- The index of the entity that an error is about. -/
def entity? : HeaderError → Option Nat
  | .notText place _ _ => place
  | .notList place _ => place
  | .badItem place _ _ => place
  | .entityNotMapping index => some index
  | .entityWithoutId index => some index
  | _ => none

theorem entity?_of_field? {e : HeaderError} {place : Option Nat} {key : String}
    (h : e.field? = some (place, key)) : e.entity? = place := by
  cases e <;> simp_all [field?, entity?]

/-- The text of an error about a field has its place and its name. -/
theorem message_of_field? {e : HeaderError} {place : Option Nat} {key : String}
    (h : e.field? = some (place, key)) :
    ∃ rest, e.message = placeText place ++ ("'" ++ key ++ rest) := by
  cases e with
  | notText place' key' kind =>
    obtain ⟨rfl, rfl⟩ : place' = place ∧ key' = key := by simpa [field?] using h
    refine ⟨"' must be a string, got " ++ kind, ?_⟩
    simp [message, String.append_assoc, ToString.toString]
  | notList place' key' =>
    obtain ⟨rfl, rfl⟩ : place' = place ∧ key' = key := by simpa [field?] using h
    refine ⟨"' must be a list of identifiers", ?_⟩
    simp [message, String.append_assoc, ToString.toString]
  | badItem place' key' index =>
    obtain ⟨rfl, rfl⟩ : place' = place ∧ key' = key := by simpa [field?] using h
    refine ⟨s!"[{index}]' must be a non-empty string", ?_⟩
    simp [message, String.append_assoc, ToString.toString]
  | entitiesNotList => contradiction
  | entityNotMapping index => contradiction
  | entityWithoutId index => contradiction
  | malformed => contradiction
  | notMapping => contradiction
  | reported text => contradiction

end HeaderError

namespace Header

/-! ### The laws of fields -/

/-- A field that is absent, or null. -/
def IsMissing (given : Option Value) : Prop := ∀ v ∈ given, v.unfold = .null

def reportsOf (place : Option Nat) (key : String) (errors : List HeaderError) :
    List HeaderError := errors.filter fun e => e.field? = some (place, key)

def Reported (errors : List HeaderError) (place : Option Nat) (key : String) : Prop :=
  ∃ e ∈ errors, e.field? = some (place, key)

section Laws

variable (errors : List HeaderError) (place : Option Nat) (key : String) (given : Option Value)

/-- A field that is taken as text gives that of its value. -/
structure TextLaw (result : Option String) : Prop where
  none_iff : result = none ↔ IsMissing given ∨ Reported errors place key
  shown : ∀ text, result = some text → ∃ v, given = some v ∧ text = v.toText
  reported : ∀ e ∈ errors, e.field? = some (place, key) →
    ∃ v, given = some v ∧ e = .notText place key v.kindName

/-- The identifier that an item of a list stands for: a text that is not blank, trimmed. -/
def identifier? : Value → Option String
  | .str s => if (Text.trim s.toList).isEmpty then none else some (.ofList (Text.trim s.toList))
  | _ => none

/-- The errors of the items that stand for no identifier, in their order. -/
def badItems (items : List Value) : List HeaderError :=
  (items.zipIdx.filter fun e => (identifier? e.1).isNone).map fun e => .badItem place key e.2

/-- A field that lists identifiers gives those of its items, or a text that stands alone. -/
structure ListLaw (result : Option (List String)) : Prop where
  none_iff : result = none ↔ IsMissing given ∨ .notList place key ∈ errors
  alone : ∀ v s, given = some v → v.unfold = .str s → result = some [s]
  items : ∀ items, given.bind Value.asList? = some items →
    result = some (items.filterMap identifier?) ∧
      reportsOf place key errors = badItems place key items

/-- The fields of an entity, and the entries that it has besides. -/
structure EntityLaw (index : Nat) (m : Mapping) (e : Entity) : Prop where
  named : e.id ≠ ""
  id : TextLaw errors (some index) "id" (m.find? "id") (some e.id)
  uplink : TextLaw errors (some index) "uplink" (m.find? "uplink") e.uplink
  downlinks : ListLaw errors (some index) "downlinks" (m.find? "downlinks") e.downlinks
  requirements : ListLaw errors (some index) "requirements" (m.find? "requirements") e.requirements
  classification :
    TextLaw errors (some index) "classification" (m.find? "classification") e.classification
  extra : e.extra.Sublist m
  kept : ∀ entry ∈ m, entry ∈ e.extra ↔ ∀ name, entry.1.asString? = some name → name ∉ entityKeys

/-- An item of the entities is one of them, or reported with its index. -/
inductive ItemLaw (index : Nat) (item : Value) : Option Entity → Prop
  | entity {m : Mapping} {e : Entity} (hitem : item.asMap? = some m)
    (hlaw : EntityLaw errors index m e) (hmapping : .entityNotMapping index ∉ errors)
    (hnamed : .entityWithoutId index ∉ errors) : ItemLaw index item (some e)
  | withoutId {m : Mapping} {id : Option String} (hitem : item.asMap? = some m)
    (hid : TextLaw errors (some index) "id" (m.find? "id") id) (hempty : ∀ text ∈ id, text = "")
    (hreported : .entityWithoutId index ∈ errors) : ItemLaw index item none
  | notMapping (hitem : item.asMap? = none) (hreported : .entityNotMapping index ∈ errors) :
    ItemLaw index item none

structure EntitiesLaw (result : List Entity) : Prop where
  items : ∀ items, given.bind Value.asList? = some items → ∃ found : List (Option Entity),
    List.Forall₂ (fun item => ItemLaw errors item.2 item.1) items.zipIdx found ∧
      result = found.reduceOption
  noItems : given.bind Value.asList? = none →
    result = [] ∧ (IsMissing given ∨ .entitiesNotList ∈ errors)
  inOrder : (errors.filterMap HeaderError.entity?).Pairwise (· ≤ ·)

end Laws

/-- The keys that a kind of header knows. -/
def knownKeys (kind : HeaderKind) : List String :=
  commonKeys ++ if kind = .requirement then ["classification"] else []

/-- A header has all that its fields declare, up to what some errors are about. -/
structure Accounts (fields : Fields) (errors : List HeaderError) (h : Header) : Prop where
  kind : h.kind = .ofId h.id
  id : TextLaw errors none "id" (fields.find? "id") h.id
  title : TextLaw errors none "title" (fields.find? "title") h.title
  description : TextLaw errors none "description" (fields.find? "description") h.description
  uplink : TextLaw errors none "uplink" (fields.find? "uplink") h.uplink
  downlinks : ListLaw errors none "downlinks" (fields.find? "downlinks") h.downlinks
  requirements : ListLaw errors none "requirements" (fields.find? "requirements") h.requirements
  classification : h.kind = .requirement →
    TextLaw errors none "classification" (fields.find? "classification") h.classification
  entities : EntitiesLaw errors (fields.find? "entities") h.entities
  extra : h.extra.entries.Sublist fields.entries
  kept : ∀ key, h.extra.find? key = if key ∈ knownKeys h.kind then none else fields.find? key
  raw : h.raw = fields

/-- Nothing of the fields is lost without an error, and no error that there was before. -/
def LosesNothing (fields : Fields) (before : List HeaderError) (h : Header) : Prop :=
  ∃ added, h.errors = before ++ added ∧ Accounts fields added h

theorem unfold_of_asList? {v : Value} {items : List Value} (h : v.asList? = some items) :
    v.unfold = .list items := by
  rw [Value.asList?] at h
  split at h
  · next hlist => rw [hlist, Option.some.inj h]
  · contradiction

/-! ### The errors of a field -/

theorem reported_iff {errors : List HeaderError} {place : Option Nat} {key : String} :
    Reported errors place key ↔ reportsOf place key errors ≠ [] := by
  simp [Reported, reportsOf, List.filter_eq_nil_iff]

theorem mem_reportsOf {errors : List HeaderError} {place : Option Nat} {key : String}
    {e : HeaderError} :
    e ∈ reportsOf place key errors ↔ e ∈ errors ∧ e.field? = some (place, key) := by
  simp [reportsOf]

@[simp] theorem reportsOf_append (place : Option Nat) (key : String)
    (errors more : List HeaderError) :
    reportsOf place key (errors ++ more) = reportsOf place key errors ++ reportsOf place key more :=
  List.filter_append ..

/-- Errors that are all about one field are reports of that one only. -/
theorem reportsOf_eq_ite {errors : List HeaderError} {place other : Option Nat} {key name : String}
    (h : ∀ e ∈ errors, e.field? = some (other, name)) :
    reportsOf place key errors = if other = place ∧ name = key then errors else [] := by
  split
  · next hsame =>
    obtain ⟨rfl, rfl⟩ := hsame
    exact List.filter_eq_self.2 fun e he => by simp [h e he]
  · next hother =>
    refine List.filter_eq_nil_iff.2 fun e he => ?_
    rw [h e he]
    simpa using hother

theorem field?_textField {place : Option Nat} {key : String} {given : Option Value} :
    ∀ e ∈ (textField place key given).2, e.field? = some (place, key) := by
  cases given with
  | none => simp [textField]
  | some v => cases v <;> simp [textField, HeaderError.field?]

@[simp] theorem reportsOf_entityWithoutId (place : Option Nat) (key : String) (index : Nat) :
    reportsOf place key [.entityWithoutId index] = [] := rfl

@[simp] theorem reportsOf_textField (place other : Option Nat) (key name : String)
    (given : Option Value) :
    reportsOf place key (textField other name given).2 =
      if other = place ∧ name = key then (textField other name given).2 else [] :=
  reportsOf_eq_ite field?_textField

theorem listItems_eq (place : Option Nat) (key : String) (index : Nat) (items : List Value) :
    listItems place key index items = (items.filterMap identifier?,
      ((items.zipIdx index).filter fun e => (identifier? e.1).isNone).map
        fun e => .badItem place key e.2) := by
  induction items generalizing index with
  | nil => rfl
  | cons v rest ih =>
    rw [listItems, ih, List.zipIdx_cons, List.filterMap_cons, List.filter_cons]
    cases v with
    | str s =>
      dsimp only [identifier?]
      split <;> simp
    | _ => simp [identifier?]

theorem listField_eq (place : Option Nat) (key : String) (v : Value) (items : List Value)
    (hitems : v.unfold = .list items) : listField place key (some v) =
      (some (items.filterMap identifier?), badItems place key items) := by
  simp only [listField, hitems, listItems_eq, badItems]

theorem field?_listField {place : Option Nat} {key : String} {given : Option Value} :
    ∀ e ∈ (listField place key given).2, e.field? = some (place, key) := by
  cases given with
  | none => simp [listField]
  | some v =>
    cases hv : v.unfold with
    | list items =>
      rw [listField_eq place key v items hv]
      simp only [badItems, List.mem_map]
      rintro e ⟨item, -, rfl⟩
      rfl
    | _ => simp [listField, hv, HeaderError.field?]

@[simp] theorem reportsOf_listField (place other : Option Nat) (key name : String)
    (given : Option Value) :
    reportsOf place key (listField other name given).2 =
      if other = place ∧ name = key then (listField other name given).2 else [] :=
  reportsOf_eq_ite field?_listField

/-! ### Fields that are read -/

section Fields

variable {errors : List HeaderError} {place : Option Nat} {key : String} {given : Option Value}

theorem textLaw (h : reportsOf place key errors = (textField place key given).2) :
    TextLaw errors place key given (textField place key given).1 := by
  have hmem (e : HeaderError) (he : e ∈ errors) (hfield : e.field? = some (place, key)) :
      e ∈ (textField place key given).2 := h ▸ mem_reportsOf.2 ⟨he, hfield⟩
  refine ⟨?_, ?_, fun e he hfield => ?_⟩
  · rw [reported_iff, h]
    cases given with
    | none => simp [textField, IsMissing]
    | some v => cases v <;> simp [textField, IsMissing, Value.unfold]
  · cases given with
    | none => simp [textField]
    | some v => cases v <;> simp [textField]
  · have hreport := hmem e he hfield
    cases given with
    | none => simp [textField] at hreport
    | some v => cases v <;> simp_all [textField]

theorem listLaw (h : reportsOf place key errors = (listField place key given).2) :
    ListLaw errors place key given (listField place key given).1 := by
  have hnotList :
      .notList place key ∈ errors ↔ .notList place key ∈ (listField place key given).2 := by
    rw [← h, mem_reportsOf]
    exact (and_iff_left rfl).symm
  cases given with
  | none => exact ⟨by simp [listField, IsMissing], by simp, by simp⟩
  | some v =>
    refine ⟨?_, fun w s hw hs => ?_, fun items hitems => ?_⟩
    · rw [hnotList]
      cases hv : v.unfold with
      | list items =>
        rw [listField_eq place key v items hv]
        simp [IsMissing, hv, badItems]
      | _ => simp [listField, IsMissing, hv]
    · obtain rfl := Option.some.inj hw
      rw [listField, hs]
    · rw [h, listField_eq place key v items (unfold_of_asList? hitems)]
      exact ⟨rfl, rfl⟩

end Fields

/-! ### Entities -/

theorem textField_fst (place : Option Nat) (key : String) (given : Option Value) :
    (textField place key given).1 = (textField none key given).1 := by
  cases given with
  | none => rfl
  | some v => cases v <;> rfl

/-- The identifier of an entity, unless it is empty. -/
def identifierOf (m : Mapping) : Option String :=
  (textField none "id" (m.find? "id")).1.filter (· ≠ "")

/-- Whether the key of an entry is none of those that entities know. -/
def isExtraKey : Value → Bool
  | .str s => !entityKeys.contains s
  | _ => true

/-- The entity that a mapping declares under its identifier. -/
def entityOf (index : Nat) (m : Mapping) (id : String) : Entity where
  id := id
  uplink := (textField (some index) "uplink" (m.find? "uplink")).1
  downlinks := (listField (some index) "downlinks" (m.find? "downlinks")).1
  requirements := (listField (some index) "requirements" (m.find? "requirements")).1
  classification := (textField (some index) "classification" (m.find? "classification")).1
  extra := List.filter (fun e => isExtraKey e.1) m

def entityErrors (index : Nat) (m : Mapping) : List HeaderError :=
  (textField (some index) "id" (m.find? "id")).2 ++
    (textField (some index) "uplink" (m.find? "uplink")).2 ++
    (listField (some index) "downlinks" (m.find? "downlinks")).2 ++
    (listField (some index) "requirements" (m.find? "requirements")).2 ++
    (textField (some index) "classification" (m.find? "classification")).2

section EntityItem

variable {index : Nat} {item : Value} {m : Mapping}

theorem entityItem_of_notMapping (h : item.asMap? = none) :
    entityItem index item = (none, [.entityNotMapping index]) := by
  rw [entityItem, h]

theorem entityItem_of_unnamed (h : item.asMap? = some m) (hid : identifierOf m = none) :
    entityItem index item =
      (none, (textField (some index) "id" (m.find? "id")).2 ++ [.entityWithoutId index]) := by
  have hplace : (textField (some index) "id" (m.find? "id")).1.filter (· ≠ "") = none := by
    rw [textField_fst]
    exact hid
  rw [entityItem, h]
  dsimp only
  rw [hplace]

theorem entityItem_of_named {id : String} (h : item.asMap? = some m)
    (hid : identifierOf m = some id) :
    entityItem index item = (some (entityOf index m id), entityErrors index m) := by
  have hplace : (textField (some index) "id" (m.find? "id")).1.filter (· ≠ "") = some id := by
    rw [textField_fst]
    exact hid
  rw [entityItem, h]
  dsimp only
  rw [hplace]
  rfl

theorem exists_field?_entityErrors :
    ∀ e ∈ entityErrors index m, ∃ key, e.field? = some (some index, key) := by
  simp only [entityErrors, List.mem_append]
  rintro e ((((he | he) | he) | he) | he)
  · exact ⟨_, field?_textField e he⟩
  · exact ⟨_, field?_textField e he⟩
  · exact ⟨_, field?_listField e he⟩
  · exact ⟨_, field?_listField e he⟩
  · exact ⟨_, field?_textField e he⟩

theorem entity?_entityItem : ∀ e ∈ (entityItem index item).2, e.entity? = some index := by
  intro e he
  cases hitem : item.asMap? with
  | none =>
    rw [entityItem_of_notMapping hitem] at he
    rw [List.mem_singleton.1 he]
    rfl
  | some m =>
    cases hid : identifierOf m with
    | none =>
      rw [entityItem_of_unnamed hitem hid] at he
      rcases List.mem_append.1 he with he | he
      · exact HeaderError.entity?_of_field? (field?_textField e he)
      · rw [List.mem_singleton.1 he]
        rfl
    | some id =>
      rw [entityItem_of_named hitem hid] at he
      obtain ⟨key, hkey⟩ := exists_field?_entityErrors e he
      exact HeaderError.entity?_of_field? hkey

end EntityItem

theorem exists_entity?_entitiesFrom {first : Nat} {items : List Value} :
    ∀ e ∈ (entitiesFrom first items).2, ∃ index, e.entity? = some index ∧ first ≤ index := by
  induction items generalizing first with
  | nil => simp [entitiesFrom]
  | cons item rest ih =>
    intro e he
    rw [entitiesFrom] at he
    rcases List.mem_append.1 he with hitem | hrest
    · exact ⟨first, entity?_entityItem e hitem, Nat.le_refl _⟩
    · obtain ⟨index, hindex, hle⟩ := ih e hrest
      exact ⟨index, hindex, by omega⟩

theorem pairwise_entitiesFrom (first : Nat) (items : List Value) :
    ((entitiesFrom first items).2.filterMap HeaderError.entity?).Pairwise (· ≤ ·) := by
  induction items generalizing first with
  | nil => exact .nil
  | cons item rest ih =>
    rw [entitiesFrom, List.filterMap_append, List.pairwise_append]
    have hitem : ∀ i ∈ (entityItem first item).2.filterMap HeaderError.entity?, i = first := by
      intro i hi
      obtain ⟨e, he, hindex⟩ := List.mem_filterMap.1 hi
      exact Option.some.inj (hindex.symm.trans (entity?_entityItem e he))
    refine ⟨List.pairwise_of_forall_mem_list fun i hi j hj => ?_, ih _, fun i hi j hj => ?_⟩
    · exact Nat.le_of_eq ((hitem i hi).trans (hitem j hj).symm)
    · obtain ⟨e, he, hindex⟩ := List.mem_filterMap.1 hj
      obtain ⟨k, hk, hle⟩ := exists_entity?_entitiesFrom e he
      obtain rfl := Option.some.inj (hindex.symm.trans hk)
      rw [hitem i hi]
      omega

theorem entitiesFrom_eq (index : Nat) (items : List Value) :
    entitiesFrom index items =
      (((items.zipIdx index).map fun e => (entityItem e.2 e.1).1).reduceOption,
        (items.zipIdx index).flatMap fun e => (entityItem e.2 e.1).2) := by
  induction items generalizing index with
  | nil => rfl
  | cons item rest ih =>
    rw [entitiesFrom, ih, List.zipIdx_cons]
    cases h : (entityItem index item).1 <;> simp [h, List.reduceOption]

def reportsOfEntity (index : Nat) (errors : List HeaderError) : List HeaderError :=
  errors.filter fun e => e.entity? = some index

theorem reportsOfEntity_entitiesFrom {first index : Nat} {items : List Value} {item : Value}
    (hitem : (item, index) ∈ items.zipIdx first) :
    reportsOfEntity index (entitiesFrom first items).2 = (entityItem index item).2 := by
  induction items generalizing first with
  | nil => simp at hitem
  | cons head rest ih =>
    rw [entitiesFrom, reportsOfEntity, List.filter_append]
    rw [List.zipIdx_cons, List.mem_cons] at hitem
    rcases hitem with heq | hrest
    · obtain ⟨rfl, rfl⟩ := Prod.mk.inj heq
      have hhead : (entityItem index item).2.filter (fun e => e.entity? = some index) =
          (entityItem index item).2 :=
        List.filter_eq_self.2 fun e he => by simp [entity?_entityItem e he]
      have hlater : (entitiesFrom (index + 1) rest).2.filter (fun e => e.entity? = some index) =
          [] := by
        refine List.filter_eq_nil_iff.2 fun e he => ?_
        obtain ⟨later, hlater, hle⟩ := exists_entity?_entitiesFrom e he
        have hne : later ≠ index := by omega
        simpa [hlater] using hne
      rw [hhead, hlater, List.append_nil]
    · have hle : first + 1 ≤ index := List.le_snd_of_mem_zipIdx hrest
      have hearlier : (entityItem first head).2.filter (fun e => e.entity? = some index) = [] := by
        refine List.filter_eq_nil_iff.2 fun e he => ?_
        have hne : first ≠ index := by omega
        simpa [entity?_entityItem e he] using hne
      rw [hearlier, List.nil_append]
      exact ih hrest

/-- The errors of a field of an entity are those among the errors of the entity. -/
theorem reportsOf_entity {errors part : List HeaderError} {index : Nat}
    (h : reportsOfEntity index errors = part) (key : String) :
    reportsOf (some index) key errors = reportsOf (some index) key part := by
  rw [← h, reportsOf, reportsOf, reportsOfEntity, List.filter_filter]
  refine List.filter_congr fun e _ => ?_
  by_cases hfield : e.field? = some (some index, key)
  · simp [hfield, HeaderError.entity?_of_field? hfield]
  · simp [hfield]

theorem mem_entity_iff {errors part : List HeaderError} {index : Nat}
    (h : reportsOfEntity index errors = part) {e : HeaderError} (he : e.entity? = some index) :
    e ∈ errors ↔ e ∈ part := by
  rw [← h, reportsOfEntity, List.mem_filter]
  simp [he]

/-- An entity has all that its mapping declares. -/
theorem entityLaw {errors : List HeaderError} {index : Nat} {m : Mapping} {id : String}
    (hid : identifierOf m = some id) (h : reportsOfEntity index errors = entityErrors index m) :
    EntityLaw errors index m (entityOf index m id) := by
  obtain ⟨hgiven, hne⟩ := Option.filter_eq_some_iff.1 hid
  rw [← textField_fst (some index)] at hgiven
  have hreports (key : String) :
      reportsOf (some index) key errors = reportsOf (some index) key (entityErrors index m) :=
    reportsOf_entity h key
  exact
    { named := of_decide_eq_true hne
      id := by
        show TextLaw errors (some index) "id" (m.find? "id") (some id)
        rw [← hgiven]
        exact textLaw (by rw [hreports]; simp [entityErrors])
      uplink := textLaw (by rw [hreports]; simp [entityErrors])
      downlinks := listLaw (by rw [hreports]; simp [entityErrors])
      requirements := listLaw (by rw [hreports]; simp [entityErrors])
      classification := textLaw (by rw [hreports]; simp [entityErrors])
      extra := List.filter_sublist
      kept := by
        intro entry hentry
        rw [entityOf, List.mem_filter, and_iff_right hentry]
        cases entry.1 with
        | str s => simp [isExtraKey, Value.asString?]
        | _ => simp [isExtraKey, Value.asString?] }

theorem itemLaw {errors : List HeaderError} {index : Nat} {item : Value}
    (h : reportsOfEntity index errors = (entityItem index item).2) :
    ItemLaw errors index item (entityItem index item).1 := by
  cases hitem : item.asMap? with
  | none =>
    rw [entityItem_of_notMapping hitem] at h ⊢
    exact .notMapping hitem ((mem_entity_iff h rfl).2 (List.mem_singleton_self _))
  | some m =>
    cases hid : identifierOf m with
    | none =>
      rw [entityItem_of_unnamed hitem hid] at h ⊢
      have hlaw : TextLaw errors (some index) "id" (m.find? "id")
          (textField (some index) "id" (m.find? "id")).1 :=
        textLaw (by rw [reportsOf_entity h]; simp)
      refine .withoutId hitem hlaw (fun text htext => ?_) ((mem_entity_iff h rfl).2 (by simp))
      rw [textField_fst] at htext
      by_contra hne
      exact Option.filter_eq_none_iff.1 hid text htext (by simpa using hne)
    | some id =>
      rw [entityItem_of_named hitem hid] at h ⊢
      have hnot (e : HeaderError) (he : e.entity? = some index) (hfield : e.field? = none) :
          e ∉ errors := by
        rw [mem_entity_iff h he]
        intro hmem
        obtain ⟨key, hkey⟩ := exists_field?_entityErrors e hmem
        rw [hfield] at hkey
        contradiction
      exact .entity hitem (entityLaw hid h) (hnot _ rfl rfl) (hnot _ rfl rfl)

theorem entitiesField_of_items {given : Option Value} {items : List Value}
    (h : given.bind Value.asList? = some items) : entitiesField given = entitiesFrom 0 items := by
  obtain ⟨v, rfl, hv⟩ := Option.bind_eq_some_iff.1 h
  rw [entitiesField, unfold_of_asList? hv]

theorem entitiesField_of_noItems {given : Option Value} (h : given.bind Value.asList? = none) :
    entitiesField given = ([], []) ∧ IsMissing given ∨
      entitiesField given = ([], [.entitiesNotList]) := by
  cases given with
  | none => exact .inl ⟨rfl, by simp [IsMissing]⟩
  | some v =>
    rw [Option.bind_some, Value.asList?] at h
    cases hv : v.unfold with
    | null => exact .inl ⟨by rw [entitiesField, hv], by simp [IsMissing, hv]⟩
    | list items => simp [hv] at h
    | _ => exact .inr (by simp only [entitiesField, hv])

theorem entitiesFrom_items (errors : List HeaderError) (items : List Value)
    (h : ∀ index, reportsOfEntity index errors = reportsOfEntity index (entitiesFrom 0 items).2) :
    ∃ found : List (Option Entity),
      List.Forall₂ (fun item => ItemLaw errors item.2 item.1) items.zipIdx found ∧
        (entitiesFrom 0 items).1 = found.reduceOption := by
  refine ⟨items.zipIdx.map fun e => (entityItem e.2 e.1).1, ?_, by rw [entitiesFrom_eq]⟩
  refine List.forall₂_map_right_iff.2 (List.forall₂_same.2 fun e he => itemLaw ?_)
  rw [h, reportsOfEntity_entitiesFrom he]

/-- Errors that are about fields of the document itself. -/
def AboutDocument (errors : List HeaderError) : Prop :=
  ∀ e ∈ errors, ∃ key, e.field? = some (none, key)

theorem AboutDocument.append {errors more : List HeaderError} (h : AboutDocument errors)
    (hmore : AboutDocument more) : AboutDocument (errors ++ more) := by
  intro e he
  rcases List.mem_append.1 he with he | he
  · exact h e he
  · exact hmore e he

theorem AboutDocument.entity?_eq_none {errors : List HeaderError} (h : AboutDocument errors) :
    ∀ e ∈ errors, e.entity? = none := by
  intro e he
  obtain ⟨key, hkey⟩ := h e he
  exact HeaderError.entity?_of_field? hkey

theorem aboutDocument_textField (key : String) (given : Option Value) :
    AboutDocument (textField none key given).2 := fun e he => ⟨key, field?_textField e he⟩

theorem aboutDocument_listField (key : String) (given : Option Value) :
    AboutDocument (listField none key given).2 := fun e he => ⟨key, field?_listField e he⟩

theorem entitiesLaw {before after : List HeaderError} (hbefore : AboutDocument before)
    (hafter : AboutDocument after) (given : Option Value) :
    EntitiesLaw (before ++ (entitiesField given).2 ++ after) given (entitiesField given).1 := by
  have hfilterMap {errors : List HeaderError} (h : AboutDocument errors) :
      errors.filterMap HeaderError.entity? = [] := List.filterMap_eq_nil_iff.2 h.entity?_eq_none
  have hfilter {errors : List HeaderError} (h : AboutDocument errors) (index : Nat) :
      reportsOfEntity index errors = [] :=
    List.filter_eq_nil_iff.2 fun e he => by simp [h.entity?_eq_none e he]
  refine ⟨fun items hitems => ?_, fun hnone => ?_, ?_⟩
  · rw [entitiesField_of_items hitems]
    refine entitiesFrom_items _ items fun index => ?_
    have hfirst := hfilter hbefore index
    have hlast := hfilter hafter index
    rw [reportsOfEntity] at hfirst hlast ⊢
    rw [List.filter_append, List.filter_append, hfirst, hlast, List.nil_append, List.append_nil]
    rfl
  · rcases entitiesField_of_noItems hnone with ⟨hfield, hmissing⟩ | hfield
    · exact ⟨by rw [hfield], .inl hmissing⟩
    · exact ⟨by rw [hfield], .inr (by simp [hfield])⟩
  · rw [List.filterMap_append, List.filterMap_append, hfilterMap hbefore, hfilterMap hafter,
      List.nil_append, List.append_nil]
    cases hitems : given.bind Value.asList? with
    | some items =>
      rw [entitiesField_of_items hitems]
      exact pairwise_entitiesFrom 0 items
    | none =>
      rcases entitiesField_of_noItems hitems with ⟨hfield, -⟩ | hfield
      · rw [hfield]
        exact .nil
      · rw [hfield]
        exact .nil

theorem reportsOf_entitiesField (given : Option Value) (key : String) :
    reportsOf none key (entitiesField given).2 = [] := by
  cases hitems : given.bind Value.asList? with
  | none =>
    rcases entitiesField_of_noItems hitems with ⟨hfield, -⟩ | hfield
    · rw [hfield]
      rfl
    · rw [hfield]
      rfl
  | some items =>
    rw [entitiesField_of_items hitems]
    refine List.filter_eq_nil_iff.2 fun e he => ?_
    obtain ⟨index, hindex, -⟩ := exists_entity?_entitiesFrom e he
    intro hfield
    have hnone := HeaderError.entity?_of_field? (of_decide_eq_true hfield)
    rw [hindex] at hnone
    contradiction

/-! ### Whole headers -/

/-- The errors of the fields that come before the entities. -/
def earlierErrors (fields : Fields) : List HeaderError :=
  (textField none "id" (fields.find? "id")).2 ++
    (textField none "title" (fields.find? "title")).2 ++
    (textField none "description" (fields.find? "description")).2 ++
    (textField none "uplink" (fields.find? "uplink")).2 ++
    (listField none "downlinks" (fields.find? "downlinks")).2 ++
    (listField none "requirements" (fields.find? "requirements")).2

/-- The kind of the header that some fields declare. -/
def kindOf (fields : Fields) : HeaderKind := .ofId (textField none "id" (fields.find? "id")).1

def classificationField (fields : Fields) : Checked (Option String) :=
  if kindOf fields = .requirement then
    textField none "classification" (fields.find? "classification")
  else (none, [])

theorem aboutDocument_earlierErrors (fields : Fields) : AboutDocument (earlierErrors fields) := by
  refine .append (.append (.append (.append (.append ?_ ?_) ?_) ?_) ?_) ?_
  · exact aboutDocument_textField _ _
  · exact aboutDocument_textField _ _
  · exact aboutDocument_textField _ _
  · exact aboutDocument_textField _ _
  · exact aboutDocument_listField _ _
  · exact aboutDocument_listField _ _

theorem field?_classificationField {fields : Fields} :
    ∀ e ∈ (classificationField fields).2, e.field? = some (none, "classification") := by
  rw [classificationField]
  split
  · exact field?_textField
  · exact fun e he => absurd he List.not_mem_nil

theorem errors_ofFields (fields : Fields) (before : List HeaderError) :
    (ofFields fields before).errors = before ++
      (earlierErrors fields ++ (entitiesField (fields.find? "entities")).2 ++
        (classificationField fields).2) := by
  simp only [ofFields, earlierErrors, classificationField, kindOf, List.append_assoc]
  rfl

theorem losesNothing_ofFields (fields : Fields) (before : List HeaderError) :
    LosesNothing fields before (ofFields fields before) := by
  have hreports (key : String) : reportsOf none key (earlierErrors fields ++
      (entitiesField (fields.find? "entities")).2 ++ (classificationField fields).2) =
        reportsOf none key (earlierErrors fields) ++
          if "classification" = key then (classificationField fields).2 else [] := by
    rw [reportsOf_append, reportsOf_append, reportsOf_entitiesField, List.append_nil,
      reportsOf_eq_ite field?_classificationField]
    simp
  refine ⟨_, errors_ofFields fields before, ?_⟩
  exact
    { kind := rfl
      id := textLaw (by rw [hreports]; simp [earlierErrors])
      title := textLaw (by rw [hreports]; simp [earlierErrors])
      description := textLaw (by rw [hreports]; simp [earlierErrors])
      uplink := textLaw (by rw [hreports]; simp [earlierErrors])
      downlinks := listLaw (by rw [hreports]; simp [earlierErrors])
      requirements := listLaw (by rw [hreports]; simp [earlierErrors])
      classification := by
        intro hkind
        have hfield : classificationField fields =
            textField none "classification" (fields.find? "classification") := if_pos hkind
        have hlaw : TextLaw _ none "classification" (fields.find? "classification")
            (textField none "classification" (fields.find? "classification")).1 :=
          textLaw (by rw [hreports, hfield]; simp [earlierErrors])
        rwa [← hfield] at hlaw
      entities := entitiesLaw (aboutDocument_earlierErrors fields)
        (fun e he => ⟨_, field?_classificationField e he⟩) _
      extra := List.filter_sublist
      kept := by
        intro key
        show (fields.filter fun key _ => !(knownKeys (kindOf fields)).contains key).find? key =
          if key ∈ knownKeys (kindOf fields) then none else fields.find? key
        rw [Table.find?_filter]
        by_cases hknown : key ∈ knownKeys (kindOf fields)
        · simp [hknown]
        · cases fields.find? key <;> simp [hknown]
      raw := rfl }

example :
    (ofFields (.ofList [("requirements", .list [.str " REQ_A ", .int 3, .str " "])]) []).errors =
      [.badItem none "requirements" 1, .badItem none "requirements" 2] := by decide

/-- Validation gives a header unless a value that is taken as text has none, and nothing that the
mapping declares is lost in it. -/
theorem losesNothing_ofMapping (m : Mapping) (before : List HeaderError) :
    ((∀ w, TakenAsText m w → w.isShowable = true) ∧
        ofMapping m = .ok (ofFields (fieldsOf m) []) ∨
      (∃ w, TakenAsText m w ∧ w.isShowable = false) ∧ ofMapping m = .error .notShown) ∧
    LosesNothing (fieldsOf m) before (ofFields (fieldsOf m) before) := by
  refine ⟨?_, losesNothing_ofFields (fieldsOf m) before⟩
  cases hread : ofMapping m with
  | ok h =>
    refine .inl ⟨fun w htaken => ?_, by rw [ofMapping_eq_ok hread]⟩
    by_contra hlong
    have hfails := ofMapping_eq_error_iff.2 ⟨rfl, w, htaken, by simpa using hlong⟩
    rw [hread] at hfails
    contradiction
  | error fault =>
    obtain ⟨rfl, hlong⟩ := ofMapping_eq_error_iff.1 hread
    exact .inr ⟨hlong, rfl⟩

end Header

end DocTrace
