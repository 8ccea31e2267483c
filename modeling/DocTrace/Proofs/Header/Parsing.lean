import DocTrace.Header.Validation

/-! When a header can be read. A text that is no YAML document and a document that is no mapping
are errors of the header. A scalar that its tag does not allow is not, nor nesting that is too
deep, nor an integer that is too long to be shown where a text is wanted: these break off. -/

namespace DocTrace.Header

/-- What stands between the lines of dashes of a text. -/
def headerOf (text : String) : Option String := (split text.toList).1.map .ofList

def bodyOf (text : String) : String := .ofList (split text.toList).2

/-- Lists and mappings are not taken as text. -/
def isTextual : Value → Bool
  | .list _ => false
  | .map _ => false
  | .knot .. => false
  | _ => true

/-- The values of a mapping that are taken as text: its keys, some of its fields, and those of
its entities, of which an entity without an identifier has no others. -/
inductive TakenAsText (m : Mapping) : Value → Prop
  | key {k v : Value} (hmem : (k, v) ∈ m) : TakenAsText m k
  | field {key : String} {v : Value} (hkey : key ∈ ["id", "title", "description", "uplink"])
    (hfield : (fieldsOf m).find? key = some v) (htextual : isTextual v = true) : TakenAsText m v
  | classification {v : Value}
    (hkind : HeaderKind.ofId (textField none "id" ((fieldsOf m).find? "id")).1 = .requirement)
    (hfield : (fieldsOf m).find? "classification" = some v) (htextual : isTextual v = true) :
    TakenAsText m v
  | entityId {items : List Value} {item v : Value} {entity : Mapping}
    (hitems : ((fieldsOf m).find? "entities").bind Value.asList? = some items)
    (hitem : item ∈ items) (hentity : item.asMap? = some entity)
    (hfield : entity.find? "id" = some v) (htextual : isTextual v = true) : TakenAsText m v
  | entityField {items : List Value} {item v : Value} {entity : Mapping} {key id : String}
    (hitems : ((fieldsOf m).find? "entities").bind Value.asList? = some items)
    (hitem : item ∈ items) (hentity : item.asMap? = some entity)
    (hid : (textField none "id" (entity.find? "id")).1 = some id) (hnamed : id ≠ "")
    (hkey : key ∈ ["uplink", "classification"]) (hfield : entity.find? key = some v)
    (htextual : isTextual v = true) : TakenAsText m v

/-- Why the header of a text breaks off, if it does: with a scalar, or with nesting, that cannot be
loaded though it is well-formed, or with an integer that cannot be shown. -/
inductive BreaksOff (text : String) : Yaml.Fault → Prop
  | scalar {header : String} {fault : Yaml.Fault} (hheader : headerOf text = some header)
    (hload : Yaml.load header = .error fault) (hfault : fault ≠ .malformed) : BreaksOff text fault
  | tooLong {header : String} {v w : Value} {m : Mapping} (hheader : headerOf text = some header)
    (hload : Yaml.load header = .ok v) (hmap : v.asMap? = some m) (htaken : TakenAsText m w)
    (hlong : w.isShowable = false) : BreaksOff text .notShown

theorem hasText_eq_false_iff {o : Option Value} :
    hasText o = false ↔ ∃ v, o = some v ∧ isTextual v = true ∧ v.isShowable = false := by
  cases o with
  | none => simp [hasText]
  | some v => cases v <;> simp [hasText, isTextual]

theorem entityHasTexts_eq_false_iff {item : Value} :
    entityHasTexts item = false ↔ ∃ entity, item.asMap? = some entity ∧
      (hasText (entity.find? "id") = false ∨
        (∃ id, (textField none "id" (entity.find? "id")).1 = some id ∧ id ≠ "") ∧
          ∃ key ∈ ["uplink", "classification"], hasText (entity.find? key) = false) := by
  rw [entityHasTexts]
  cases item.asMap? with
  | none => simp
  | some entity =>
    have hnamed : ((textField none "id" (entity.find? "id")).1.filter (· ≠ "")).isNone = false ↔
        ∃ id, (textField none "id" (entity.find? "id")).1 = some id ∧ id ≠ "" := by
      rw [Option.isNone_eq_false_iff, Option.isSome_filter]
      simp [Option.any_eq_true]
    simp only [Bool.and_eq_false_iff, Bool.or_eq_false_iff, hnamed, Option.some.injEq,
      exists_eq_left', List.mem_cons, List.not_mem_nil, or_false, exists_eq_or_imp,
      exists_eq_left]

theorem lacksText_iff {m : Mapping} :
    ((List.all m fun e => e.1.isShowable) && haveTexts (fieldsOf m)) = false ↔
      ∃ w, TakenAsText m w ∧ w.isShowable = false := by
  simp only [haveTexts, Bool.and_eq_false_iff, Bool.or_eq_false_iff, List.all_eq_false,
    hasText_eq_false_iff, entityHasTexts_eq_false_iff, Bool.not_eq_true]
  constructor
  · rintro (⟨⟨k, v⟩, hmem, hlong⟩ | (⟨key, hkey, w, hfield, htextual, hlong⟩ |
      ⟨item, hitem, entity, hentity, hlacks⟩) | ⟨hkind, w, hfield, htextual, hlong⟩)
    · exact ⟨k, .key hmem, hlong⟩
    · exact ⟨w, .field hkey hfield htextual, hlong⟩
    · cases hitems : ((fieldsOf m).find? "entities").bind Value.asList? with
      | none => simp [hitems] at hitem
      | some items =>
        rw [hitems] at hitem
        rcases hlacks with ⟨w, hfield, htextual, hlong⟩ |
          ⟨⟨id, hid, hnamed⟩, key, hkey, w, hfield, htextual, hlong⟩
        · exact ⟨w, .entityId hitems hitem hentity hfield htextual, hlong⟩
        · exact ⟨w, .entityField hitems hitem hentity hid hnamed hkey hfield htextual, hlong⟩
    · exact ⟨w, .classification (by simpa using hkind) hfield htextual, hlong⟩
  · rintro ⟨w, htaken, hlong⟩
    cases htaken with
    | @key _ v hmem => exact .inl ⟨(w, v), hmem, hlong⟩
    | field hkey hfield htextual =>
      exact .inr (.inl (.inl ⟨_, hkey, w, hfield, htextual, hlong⟩))
    | classification hkind hfield htextual =>
      exact .inr (.inr ⟨by simpa using hkind, w, hfield, htextual, hlong⟩)
    | entityId hitems hitem hentity hfield htextual =>
      refine .inr (.inl (.inr ⟨_, ?_, _, hentity, .inl ⟨w, hfield, htextual, hlong⟩⟩))
      rw [hitems]
      exact hitem
    | entityField hitems hitem hentity hid hnamed hkey hfield htextual =>
      refine .inr (.inl (.inr ⟨_, ?_, _, hentity,
        .inr ⟨⟨_, hid, hnamed⟩, _, hkey, w, hfield, htextual, hlong⟩⟩))
      rw [hitems]
      exact hitem

theorem ofMapping_eq_error_iff {m : Mapping} {fault : Yaml.Fault} :
    ofMapping m = .error fault ↔
      fault = .notShown ∧ ∃ w, TakenAsText m w ∧ w.isShowable = false := by
  rw [ofMapping, ← lacksText_iff]
  split
  · next hshown => simp [hshown]
  · next hlacks =>
    have hlacks : ((List.all m fun e => e.1.isShowable) && haveTexts (fieldsOf m)) = false := by
      simpa using hlacks
    simp [hlacks, eq_comm]

theorem ofMapping_eq_ok {m : Mapping} {h : Header} (hread : ofMapping m = .ok h) :
    h = ofFields (fieldsOf m) [] := by
  rw [ofMapping] at hread
  split at hread
  · exact (Except.ok.inj hread).symm
  · contradiction

/-! ### Whole texts -/

theorem parse_eq (text : String) :
    parse text =
      match headerOf text with
      | none => .ok ({}, bodyOf text)
      | some header => (ofText header).map fun h => (h, bodyOf text) := by
  rw [parse, headerOf, bodyOf]
  rcases split text.toList with ⟨_ | header, body⟩ <;> rfl

theorem ofText_eq_error_iff {header : String} {fault : Yaml.Fault} :
    ofText header = .error fault ↔
      Yaml.load header = .error fault ∧ fault ≠ .malformed ∨
        ∃ v m, Yaml.load header = .ok v ∧ v.asMap? = some m ∧ ofMapping m = .error fault := by
  rw [ofText]
  split
  · next hload => simp +contextual [hload, eq_comm]
  · next other hother hload =>
    rw [hload]
    constructor
    · intro heq
      obtain rfl := Except.error.inj heq
      exact .inl ⟨rfl, hother⟩
    · rintro (⟨heq, -⟩ | ⟨v, m, heq, -⟩)
      · rw [Except.error.inj heq]
      · contradiction
  · next hload => simp [hload, Value.asMap?, Value.unfold]
  · next v _ hload =>
    cases hmap : v.asMap? with
    | none => simp [hload, hmap]
    | some m => simp [hload, hmap]

/-- What a header says that can be read: its errors, or what its fields declare. -/
structure Says (header : String) (h : Header) : Prop where
  malformed : Yaml.load header = .error .malformed → h.errors = [.malformed]
  notMapping : ∀ v, Yaml.load header = .ok v → v.isNull = false → v.asMap? = none →
    h.errors = [.notMapping]
  fields : ∀ v m, Yaml.load header = .ok v → v.asMap? = some m → h = ofFields (fieldsOf m) []

theorem says_of_ofText {header : String} {h : Header} (hread : ofText header = .ok h) :
    Says header h := by
  rw [ofText] at hread
  split at hread
  · next hload =>
    obtain rfl := Except.ok.inj hread
    exact ⟨fun _ => rfl, fun v hv => by simp [hload] at hv, fun v m hv => by simp [hload] at hv⟩
  · contradiction
  · next hload =>
    refine ⟨fun hv => by simp [hload] at hv, fun v hv hnull => ?_, fun v m hv hmap => ?_⟩
    · obtain rfl := Except.ok.inj (hload.symm.trans hv)
      contradiction
    · obtain rfl := Except.ok.inj (hload.symm.trans hv)
      contradiction
  · next v _ hload =>
    refine ⟨fun hv => by simp [hload] at hv, fun w hw _ hmap => ?_, fun w m hw hmap => ?_⟩
    · obtain rfl := Except.ok.inj (hload.symm.trans hw)
      rw [hmap] at hread
      exact (Except.ok.inj hread) ▸ rfl
    · obtain rfl := Except.ok.inj (hload.symm.trans hw)
      rw [hmap] at hread
      exact ofMapping_eq_ok hread

theorem parse_eq_error_iff {text : String} {fault : Yaml.Fault} :
    parse text = .error fault ↔ BreaksOff text fault := by
  rw [parse_eq]
  constructor
  · intro hparse
    cases hheader : headerOf text with
    | none => simp [hheader] at hparse
    | some header =>
      rw [hheader] at hparse
      have htext : ofText header = .error fault := by
        cases hread : ofText header with
        | error other => simpa [hread, Except.map] using hparse
        | ok h => simp [hread, Except.map] at hparse
      rcases ofText_eq_error_iff.1 htext with ⟨hload, hfault⟩ | ⟨v, m, hload, hmap, hfails⟩
      · exact .scalar hheader hload hfault
      · obtain ⟨rfl, w, htaken, hlong⟩ := ofMapping_eq_error_iff.1 hfails
        exact .tooLong hheader hload hmap htaken hlong
  · intro hbreaks
    cases hbreaks with
    | scalar hheader hload hfault =>
      rw [hheader]
      have htext := ofText_eq_error_iff.2 (.inl ⟨hload, hfault⟩)
      simp [htext, Except.map]
    | tooLong hheader hload hmap htaken hlong =>
      rw [hheader]
      have hfails := ofMapping_eq_error_iff.2 ⟨rfl, _, htaken, hlong⟩
      have htext := ofText_eq_error_iff.2 (.inr ⟨_, _, hload, hmap, hfails⟩)
      simp [htext, Except.map]

example : (match parse "---\nid: A\ndate: 2024-02-30\n---\nbody\n" with
    | .error fault => fault.message
    | .ok _ => "") = "day is out of range for month" := by decide +kernel

theorem exists_parse_iff {text : String} :
    (∃ h body, parse text = .ok (h, body)) ↔ ¬∃ fault, BreaksOff text fault := by
  simp only [← parse_eq_error_iff]
  rcases parse text with fault | ⟨h, body⟩
  · simp
  · simp

theorem says_of_parse {text body : String} {h : Header} (hparse : parse text = .ok (h, body)) :
    body = bodyOf text ∧ (headerOf text = none → h = {}) ∧
      ∀ header, headerOf text = some header → Says header h := by
  rw [parse_eq] at hparse
  cases hheader : headerOf text with
  | none =>
    rw [hheader] at hparse
    obtain ⟨rfl, rfl⟩ := Prod.mk.inj (Except.ok.inj hparse)
    exact ⟨rfl, fun _ => rfl, fun _ h => by contradiction⟩
  | some header =>
    rw [hheader] at hparse
    cases hread : ofText header with
    | error fault => simp [hread, Except.map] at hparse
    | ok read =>
      simp only [hread, Except.map, Except.ok.injEq, Prod.mk.injEq] at hparse
      obtain ⟨rfl, rfl⟩ := hparse
      refine ⟨rfl, fun h => by contradiction, fun other hother => ?_⟩
      obtain rfl := Option.some.inj hother
      exact says_of_ofText hread

end DocTrace.Header
