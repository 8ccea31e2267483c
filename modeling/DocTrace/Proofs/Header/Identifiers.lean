import DocTrace.Proofs.Header.Reporting
import DocTrace.Proofs.Value.Mapping
import Mathlib.Data.List.DropRight

/-! The two forms of a list of identifiers. Items are trimmed and blank ones are reported, but a
text that stands alone is taken as it is. So it stands for the list with itself as its only item
where it is tidy, and only there. -/

namespace DocTrace.Header

open Text

/-! ### Tidy texts -/

/-- A text that is not empty and has no blanks around it. -/
structure IsTidy (s : String) : Prop where
  first : ∃ c, s.toList.head? = some c ∧ isBlank c = false
  last : ∃ c, s.toList.getLast? = some c ∧ isBlank c = false

theorem trim_eq (s : List Char) : trim s = (s.dropWhile isBlank).rdropWhile isBlank := rfl

theorem isTidy_ofList_trim {s : List Char} (h : trim s ≠ []) : IsTidy (.ofList (trim s)) := by
  obtain ⟨c, rest, hcons⟩ := List.exists_cons_of_ne_nil h
  have hlast := List.rdropWhile_last_not isBlank (s.dropWhile isBlank) h
  refine ⟨⟨c, by rw [String.toList_ofList, hcons]; rfl, ?_⟩,
    ⟨(trim s).getLast h, by rw [String.toList_ofList, List.getLast?_eq_getLast_of_ne_nil h],
      Bool.eq_false_iff.2 hlast⟩⟩
  -- What is cut off at the end leaves the first character, where no blank is left.
  obtain ⟨cut, hcut⟩ := List.rdropWhile_prefix isBlank (s.dropWhile isBlank)
  have hwhole : s.dropWhile isBlank = c :: (rest ++ cut) := by
    rw [← hcut, ← trim_eq, hcons, List.cons_append]
  have hhead := List.head_dropWhile_not isBlank (hwhole ▸ List.cons_ne_nil _ _)
  simpa [hwhole] using hhead

theorem trim_of_isTidy {s : String} (h : IsTidy s) : trim s.toList = s.toList := by
  obtain ⟨c, hc, hfirst⟩ := h.first
  obtain ⟨d, hd, hlast⟩ := h.last
  have hskip : s.toList.dropWhile isBlank = s.toList := by
    obtain ⟨rest, hrest⟩ := List.head?_eq_some_iff.1 hc
    rw [hrest, List.dropWhile_cons_of_neg (by simp [hfirst])]
  rw [trim_eq, hskip, List.rdropWhile_eq_self_iff]
  intro hne
  rw [List.getLast?_eq_getLast_of_ne_nil hne] at hd
  rw [Option.some.inj hd]
  simp [hlast]

theorem isTidy_of_identifier? {item : Value} {id : String} (h : identifier? item = some id) :
    IsTidy id := by
  cases item with
  | str s =>
    rw [identifier?] at h
    split at h
    · contradiction
    · next hblank =>
      rw [← Option.some.inj h]
      exact isTidy_ofList_trim (by simpa using hblank)
  | _ => contradiction

theorem identifier?_str_eq_self_iff {s : String} : identifier? (.str s) = some s ↔ IsTidy s := by
  refine ⟨isTidy_of_identifier?, fun h => ?_⟩
  have hne : s.toList ≠ [] := by
    obtain ⟨c, hc, -⟩ := h.first
    intro hnil
    rw [hnil] at hc
    contradiction
  rw [identifier?, trim_of_isTidy h, if_neg (by simpa using hne), String.ofList_toList]

/-! ### A text alone, and a list with one item -/

/-- The fields that list identifiers. -/
def listKeys : List String := ["downlinks", "requirements"]

theorem mem_listKeys {key : String} :
    key ∈ listKeys ↔ key = "downlinks" ∨ key = "requirements" := by
  simp [listKeys]

/-- Where a text is tidy, it stands for the list with itself as its only item. -/
theorem listField_alone (place : Option Nat) (key : String) {s : String} (h : IsTidy s) :
    listField place key (some (.str s)) = listField place key (some (.list [.str s])) := by
  rw [listField_eq place key (.list [.str s]) [.str s] rfl]
  have hidentifier := identifier?_str_eq_self_iff.2 h
  simp [listField, Value.unfold, badItems, hidentifier]

theorem isTidy_of_listField_alone {place : Option Nat} {key s : String}
    (h : (listField place key (some (.str s))).1 =
      (listField place key (some (.list [.str s]))).1) : IsTidy s := by
  rw [listField_eq place key (.list [.str s]) [.str s] rfl] at h
  have hitems : [s] = [Value.str s].filterMap identifier? := Option.some.inj h
  refine identifier?_str_eq_self_iff.1 ?_
  cases hidentifier : identifier? (.str s) with
  | none => simp [hidentifier] at hitems
  | some id => simpa [hidentifier, eq_comm] using hitems

/-! ### The places of a header that list identifiers -/

/-- A field that lists identifiers, in a header or in one of its entities, with all that is around
it. -/
inductive Spot
  | document (fields : Fields) (key : String)
  | entity (fields : Fields) (earlier : List Value) (m : Mapping) (later : List Value)
    (key : String)

namespace Spot

def key : Spot → String
  | .document _ key => key
  | .entity _ _ _ _ key => key

/-- The fields of the header with a value for the field. -/
def given (v : Value) : Spot → Fields
  | .document fields key => fields.put key v
  | .entity fields earlier m later key =>
    fields.put "entities" (.list (earlier ++ .map (m.put (.str key) v) :: later))

/-- What an entity lists is read if it has an identifier. -/
def IsRead : Spot → Prop
  | .document .. => True
  | .entity _ _ m _ _ => identifierOf m ≠ none

end Spot

/-- Two headers with the same identifiers in their lists and errors about the same fields. -/
structure SameLists (h other : Header) : Prop where
  downlinks : h.downlinks = other.downlinks
  requirements : h.requirements = other.requirements
  entities : h.entities.map (fun e => (e.id, e.downlinks, e.requirements)) =
    other.entities.map fun e => (e.id, e.downlinks, e.requirements)
  reported : ∀ place key, Reported h.errors place key ↔ Reported other.errors place key

theorem ofFields_put_list (fields : Fields) (before : List HeaderError) {key : String} {v w : Value}
    (hkey : key ∈ listKeys) (h : listField none key (some v) = listField none key (some w)) :
    ofFields (fields.put key v) before =
      { ofFields (fields.put key w) before with raw := fields.put key v } := by
  rcases mem_listKeys.1 hkey with rfl | rfl
  · simp [ofFields, Table.find?_put, h, Table.filter_put, commonKeys]
  · simp [ofFields, Table.find?_put, h, Table.filter_put, commonKeys]

theorem ofFields_put_entities (fields : Fields) (before : List HeaderError) {v w : Value}
    (h : entitiesField (some v) = entitiesField (some w)) :
    ofFields (fields.put "entities" v) before =
      { ofFields (fields.put "entities" w) before with raw := fields.put "entities" v } := by
  simp [ofFields, Table.find?_put, h, Table.filter_put, commonKeys]

theorem entitiesFrom_append (index : Nat) (items more : List Value) :
    entitiesFrom index (items ++ more) =
      ((entitiesFrom index items).1 ++ (entitiesFrom (index + items.length) more).1,
        (entitiesFrom index items).2 ++ (entitiesFrom (index + items.length) more).2) := by
  induction items generalizing index with
  | nil => rfl
  | cons item rest ih =>
    rw [List.cons_append, entitiesFrom, ih, entitiesFrom]
    have hlength : index + 1 + rest.length = index + (item :: rest).length := by
      rw [List.length_cons]
      omega
    rw [hlength, List.append_assoc, List.append_assoc]

/-- An item between others counts by what it is read as. -/
theorem entitiesField_between (earlier later : List Value) (item : Value) :
    entitiesField (some (.list (earlier ++ item :: later))) =
      ((entitiesFrom 0 earlier).1 ++ ((entityItem earlier.length item).1.toList ++
          (entitiesFrom (earlier.length + 1) later).1),
        (entitiesFrom 0 earlier).2 ++ ((entityItem earlier.length item).2 ++
          (entitiesFrom (earlier.length + 1) later).2)) := by
  have hfield : entitiesField (some (.list (earlier ++ item :: later))) =
      entitiesFrom 0 (earlier ++ item :: later) := rfl
  rw [hfield, entitiesFrom_append, Nat.zero_add]
  rfl

variable {index : Nat} {m : Mapping} {key : String} {v w : Value}

theorem find?_put_of_ne {name : String} (h : key ≠ name) :
    (m.put (.str key) v).find? name = m.find? name := by
  rw [Mapping.find?_put, if_neg]
  exact fun hsame => h (Option.some.inj hsame)

theorem identifierOf_put (hkey : key ∈ listKeys) :
    identifierOf (m.put (.str key) v) = identifierOf m := by
  rw [identifierOf, identifierOf, find?_put_of_ne]
  rintro rfl
  exact absurd hkey (by decide)

/-- What is known of an entity can be written before the rest is taken. -/
theorem filter_isExtraKey_put (hkey : key ∈ entityKeys) :
    List.filter (fun e => isExtraKey e.1) (m.put (.str key) v) =
      List.filter (fun e => isExtraKey e.1) m := by
  have hknown {k : Value} (hk : k.eqValue (.str key) = true) : isExtraKey k = false := by
    obtain rfl := Value.asString?_eq_some_iff.1 (Value.asString?_of_eqValue hk)
    simpa [isExtraKey] using hkey
  exact Mapping.filter_put m v (by simpa [isExtraKey] using hkey) fun k hk => hknown hk

theorem entityItem_put_list (hkey : key ∈ listKeys)
    (h : listField (some index) key (some v) = listField (some index) key (some w)) :
    entityItem index (.map (m.put (.str key) v)) =
      entityItem index (.map (m.put (.str key) w)) := by
  have hother (name : String) (hname : name ∉ listKeys) :
      (m.put (.str key) v).find? name = (m.put (.str key) w).find? name := by
    have hne : key ≠ name := fun hsame => hname (hsame ▸ hkey)
    rw [find?_put_of_ne hne, find?_put_of_ne hne]
  have hlists (name : String) :
      listField (some index) name ((m.put (.str key) v).find? name) =
        listField (some index) name ((m.put (.str key) w).find? name) := by
    rw [Mapping.find?_put, Mapping.find?_put]
    split
    · next hsame =>
      obtain rfl := Option.some.inj hsame
      exact h
    · rfl
  have hknown : key ∈ entityKeys := by
    rcases mem_listKeys.1 hkey with rfl | rfl
    · decide
    · decide
  cases hid : identifierOf m with
  | none =>
    rw [entityItem_of_unnamed rfl ((identifierOf_put hkey).trans hid),
      entityItem_of_unnamed rfl ((identifierOf_put hkey).trans hid), hother "id" (by decide)]
  | some id =>
    rw [entityItem_of_named rfl ((identifierOf_put hkey).trans hid),
      entityItem_of_named rfl ((identifierOf_put hkey).trans hid)]
    simp only [entityOf, entityErrors, filter_isExtraKey_put hknown, hother "id" (by decide),
      hother "uplink" (by decide), hother "classification" (by decide), hlists]

theorem entityItem_put_unread (hkey : key ∈ listKeys) (hid : identifierOf m = none) :
    entityItem index (.map (m.put (.str key) v)) =
      entityItem index (.map (m.put (.str key) w)) := by
  have hne : key ≠ "id" := by
    rintro rfl
    exact absurd hkey (by decide)
  rw [entityItem_of_unnamed rfl ((identifierOf_put hkey).trans hid),
    entityItem_of_unnamed rfl ((identifierOf_put hkey).trans hid), find?_put_of_ne hne,
    find?_put_of_ne hne]

/-- A tidy text and the list with it alone as its item declare the same, and so do any two values
where nothing is read. -/
theorem ofFields_alone {spot : Spot} {s : String} (hkey : spot.key ∈ listKeys)
    (h : spot.IsRead → IsTidy s) (before : List HeaderError) :
    ofFields (spot.given (.str s)) before =
      { ofFields (spot.given (.list [.str s])) before with raw := spot.given (.str s) } := by
  cases spot with
  | document fields key =>
    have hfield := listField_alone none key (h trivial)
    exact ofFields_put_list fields before hkey hfield
  | entity fields earlier m later key =>
    refine ofFields_put_entities fields before ?_
    rw [entitiesField_between, entitiesField_between]
    have hitem : entityItem earlier.length (.map (m.put (.str key) (.str s))) =
        entityItem earlier.length (.map (m.put (.str key) (.list [.str s]))) := by
      by_cases hid : identifierOf m = none
      · exact entityItem_put_unread hkey hid
      · have hfield := listField_alone (some earlier.length) key (h hid)
        exact entityItem_put_list hkey hfield
    rw [hitem]

theorem isTidy_of_sameLists {spot : Spot} {s : String} (hkey : spot.key ∈ listKeys)
    (hread : spot.IsRead) {before : List HeaderError}
    (h : SameLists (ofFields (spot.given (.str s)) before)
      (ofFields (spot.given (.list [.str s])) before)) : IsTidy s := by
  cases spot with
  | document fields key =>
    have hlisted (x : Value) : (fields.put key x).find? key = some x := by
      rw [Table.find?_put, if_pos rfl]
    have hsame : (listField none key ((fields.put key (.str s)).find? key)).1 =
        (listField none key ((fields.put key (.list [.str s])).find? key)).1 := by
      rcases mem_listKeys.1 hkey with rfl | rfl
      · exact h.downlinks
      · exact h.requirements
    rw [hlisted, hlisted] at hsame
    exact isTidy_of_listField_alone hsame
  | entity fields earlier m later key =>
    obtain ⟨id, hid⟩ := Option.ne_none_iff_exists'.1 hread
    have hlisted (x : Value) : (m.put (.str key) x).find? key = some x :=
      (Mapping.find?_put ..).trans (if_pos rfl)
    have hentities (x : Value) :
        (ofFields ((Spot.entity fields earlier m later key).given x) before).entities =
          (entitiesFrom 0 earlier).1 ++ (entityOf earlier.length (m.put (.str key) x) id ::
            (entitiesFrom (earlier.length + 1) later).1) := by
      show (entitiesField ((fields.put "entities" _).find? "entities")).1 = _
      rw [Table.find?_put, if_pos rfl, entitiesField_between,
        entityItem_of_named rfl ((identifierOf_put hkey).trans hid)]
      rfl
    have hmap := h.entities
    rw [hentities, hentities, List.map_append, List.map_append, List.append_cancel_left_eq,
      List.map_cons, List.map_cons] at hmap
    obtain ⟨-, hdown, hreq⟩ : _ ∧ _ ∧ _ := by simpa using (List.cons.inj hmap).1
    let place := some earlier.length
    have hsame : (listField place key ((m.put (.str key) (.str s)).find? key)).1 =
        (listField place key ((m.put (.str key) (.list [.str s])).find? key)).1 := by
      rcases mem_listKeys.1 hkey with rfl | rfl
      · exact hdown
      · exact hreq
    rw [hlisted, hlisted] at hsame
    exact isTidy_of_listField_alone hsame

theorem sameLists_alone_iff (spot : Spot) (hkey : spot.key ∈ listKeys) (s : String)
    (before : List HeaderError) :
    SameLists (ofFields (spot.given (.str s)) before)
      (ofFields (spot.given (.list [.str s])) before) ↔ (spot.IsRead → IsTidy s) := by
  constructor
  · intro h hread
    exact isTidy_of_sameLists hkey hread h
  · intro h
    rw [ofFields_alone hkey h before]
    exact ⟨rfl, rfl, rfl, fun _ _ => Iff.rfl⟩

/-! ### What reaches a header -/

/-- A text is given where a list is expected. -/
def GivenAlone (given : Option Value) (text : String) : Prop :=
  ∃ v, given = some v ∧ v.unfold = .str text

theorem mem_listField_iff {place : Option Nat} {given : Option Value} {id : String} :
    id ∈ (listField place key given).1.getD [] ↔ GivenAlone given id ∨
      ∃ items, given.bind Value.asList? = some items ∧
        ∃ item ∈ items, identifier? item = some id := by
  cases given with
  | none => simp [listField, GivenAlone]
  | some v =>
    cases hv : v.unfold with
    | list items =>
      rw [listField_eq place key v items hv]
      simp [GivenAlone, Value.asList?, hv]
    | _ => simp [listField, GivenAlone, Value.asList?, hv, eq_comm]

theorem mem_entitiesField_iff {given : Option Value} {e : Entity} :
    e ∈ (entitiesField given).1 ↔ ∃ items item index m id,
      given.bind Value.asList? = some items ∧ items[index]? = some item ∧
        item.asMap? = some m ∧ identifierOf m = some id ∧ e = entityOf index m id := by
  cases hitems : given.bind Value.asList? with
  | none =>
    have hnone : (entitiesField given).1 = [] := by
      rcases entitiesField_of_noItems hitems with ⟨hfield, -⟩ | hfield
      · rw [hfield]
      · rw [hfield]
    simp [hnone]
  | some items =>
    rw [entitiesField_of_items hitems, entitiesFrom_eq, List.reduceOption_mem_iff, List.mem_map]
    constructor
    · rintro ⟨⟨item, index⟩, hmem, hfound⟩
      cases hitem : item.asMap? with
      | none =>
        rw [entityItem_of_notMapping hitem] at hfound
        contradiction
      | some m =>
        cases hid : identifierOf m with
        | none =>
          rw [entityItem_of_unnamed hitem hid] at hfound
          contradiction
        | some id =>
          rw [entityItem_of_named hitem hid] at hfound
          exact ⟨items, item, index, m, id, rfl, List.mk_mem_zipIdx_iff_getElem?.1 hmem, hitem, hid,
            (Option.some.inj hfound).symm⟩
    · rintro ⟨_, item, index, m, id, hsame, hmem, hitem, hid, rfl⟩
      obtain rfl := Option.some.inj hsame
      exact ⟨(item, index), List.mk_mem_zipIdx_iff_getElem?.2 hmem,
        by rw [entityItem_of_named hitem hid]⟩

theorem exists_ofFields_of_ofText {header : String} {h : Header} (hread : ofText header = .ok h) :
    ∃ before, h = ofFields h.raw before := by
  rw [ofText] at hread
  split at hread
  · obtain rfl := Except.ok.inj hread
    exact ⟨[.malformed], rfl⟩
  · contradiction
  · obtain rfl := Except.ok.inj hread
    exact ⟨[], rfl⟩
  · next v _ _ =>
    cases hmap : v.asMap? with
    | none =>
      rw [hmap] at hread
      obtain rfl := Except.ok.inj hread
      exact ⟨[.notMapping], rfl⟩
    | some m =>
      rw [hmap] at hread
      obtain rfl := ofMapping_eq_ok hread
      exact ⟨[], rfl⟩

/-- A header that is read is made of its fields. -/
theorem exists_ofFields_of_parse {text body : String} {h : Header}
    (hparse : parse text = .ok (h, body)) : ∃ before, h = ofFields h.raw before := by
  rw [parse_eq] at hparse
  cases hheader : headerOf text with
  | none =>
    rw [hheader] at hparse
    obtain ⟨rfl, -⟩ := Prod.mk.inj (Except.ok.inj hparse)
    exact ⟨[], rfl⟩
  | some header =>
    rw [hheader] at hparse
    cases hread : ofText header with
    | error fault => simp [hread, Except.map] at hparse
    | ok read =>
      simp only [hread, Except.map, Except.ok.injEq, Prod.mk.injEq] at hparse
      obtain ⟨rfl, -⟩ := hparse
      exact exists_ofFields_of_ofText hread

end DocTrace.Header
