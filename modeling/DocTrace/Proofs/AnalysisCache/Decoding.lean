import DocTrace.AnalysisCache.Basic
import DocTrace.Proofs.Json.Readable

/-! Which members of a document are entries. What is none is skipped, except where a value in it
makes the reading break off: an infinite timestamp, or something in place of a relationship that
has no members. -/

namespace DocTrace.AnalysisCache.Entry

/-! ### Reading in parts -/

/-- A reading gives a value where the input is good, breaks off where it is fatal, and else finds
it malformed. -/
inductive Reads (good fatal : Prop) : Except Fault α → Prop where
  | read (hgood : good) (hfatal : ¬fatal) (a : α) : Reads good fatal (.ok a)
  | brokeOff (hgood : ¬good) (hfatal : fatal) {fault : Fault} (hfault : fault ≠ .malformed) :
    Reads good fatal (.error fault)
  | skipped (hgood : ¬good) (hfatal : ¬fatal) : Reads good fatal (.error .malformed)

section Reads

variable {good fatal good' fatal' : Prop} {x : Except Fault α}

theorem Reads.congr (h : Reads good fatal x) (hgood : good ↔ good') (hfatal : fatal ↔ fatal') :
    Reads good' fatal' x := by
  rw [← propext hgood, ← propext hfatal]
  exact h

/-- The second part is only looked at where the first one is good. -/
theorem Reads.bind {next : α → Except Fault β} (hx : Reads good fatal x)
    (hnext : ∀ a, x = .ok a → Reads good' fatal' (next a)) :
    Reads (good ∧ good') (fatal ∨ good ∧ fatal') (x >>= next) := by
  cases hx with
  | brokeOff hgood hfatal hfault => exact .brokeOff (fun h => hgood h.1) (.inl hfatal) hfault
  | skipped hgood hfatal =>
    exact .skipped (fun h => hgood h.1) fun h => h.elim hfatal fun h => hgood h.1
  | read hgood hfatal a =>
    have hrest := hnext a rfl
    have hboth : (good ∧ good') ↔ good' := and_iff_right hgood
    have hlater : (fatal ∨ good ∧ fatal') ↔ fatal' := by simp [hgood, hfatal]
    exact hrest.congr hboth.symm hlater.symm

end Reads

/-! ### Parts of an entry -/

def HasMember (j : Json) (key : String) : Prop := (j.member? key).isSome

def HasArray (j : Json) (key : String) : Prop := ∃ items, j.member? key = some (.array items)

/-- Labels are given by an object. Anything that counts as empty stands for none. -/
def HasLabels (j : Json) : Prop :=
  ∀ v, j.member? "labels" = some v → (Value.ofJson v).truthy = true → ∃ members, v = .object members

def IsTimestamp : Json → Prop
  | .bool _ => True
  | .int _ => True
  | .float x => ∃ negative significand exponent, x = .finite negative significand exponent
  | .str s => ∃ i, Number.readInt 10 s.toList = .ok i
  | _ => False

def IsInfinite (j : Json) : Prop := ∃ negative, j = .float (.infinite negative)

def IsObject (j : Json) : Prop := ∃ members, j = .object members

def IsRelationship (j : Json) : Prop := HasMember j "from" ∧ HasMember j "to"

/-- Something without members stands where only relationships have been before. -/
def BreaksAmong (items : List Json) : Prop :=
  ∃ before j after, items = before ++ j :: after ∧ (∀ r ∈ before, IsRelationship r) ∧ ¬IsObject j

theorem reads_requiredText (j : Json) (key : String) :
    Reads (HasMember j key) False (requiredText j key) := by
  unfold requiredText HasMember
  cases j.member? key with
  | none => exact .skipped (by simp) id
  | some v => exact .read rfl id _

theorem requiredArray_eq_ok_iff {j : Json} {key : String} {items : List Json} :
    requiredArray j key = .ok items ↔ j.member? key = some (.array items) := by
  unfold requiredArray
  split
  · next other hother => simp [hother]
  · next hnone => exact iff_of_false (by simp) fun h => hnone items h

theorem reads_requiredArray (j : Json) (key : String) :
    Reads (HasArray j key) False (requiredArray j key) := by
  cases hread : requiredArray j key with
  | ok items => exact .read ⟨items, requiredArray_eq_ok_iff.1 hread⟩ id items
  | error fault =>
    have hnone : ¬HasArray j key := by
      rintro ⟨items, hitems⟩
      rw [requiredArray_eq_ok_iff.2 hitems] at hread
      exact nomatch hread
    have hfault : fault = .malformed := by
      unfold requiredArray at hread
      split at hread
      · exact nomatch hread
      · exact (Except.error.inj hread).symm
    exact hfault ▸ .skipped hnone id

theorem reads_labelsOf (j : Json) : Reads (HasLabels j) False (labelsOf j) := by
  unfold labelsOf
  cases hfound : (j.member? "labels").filter fun v => (Value.ofJson v).truthy with
  | none =>
    have hlabels : HasLabels j := by
      intro v hv htruthy
      simp [hv, htruthy, Option.filter] at hfound
    exact .read hlabels id _
  | some found =>
    obtain ⟨hmember, htruthy⟩ := Option.filter_eq_some_iff.1 hfound
    have hlabels : HasLabels j ↔ IsObject found := by
      refine ⟨fun h => h found hmember htruthy, fun hobject v hv _ => ?_⟩
      exact Option.some.inj (hmember.symm.trans hv) ▸ hobject
    refine Reads.congr ?_ hlabels.symm Iff.rfl
    cases found with
    | object members => exact .read ⟨members, rfl⟩ id _
    | null | bool | int | float | str | array => exact .skipped (fun ⟨_, h⟩ => nomatch h) id

theorem reads_timestampOf (j : Json) :
    Reads (IsTimestamp j) (IsInfinite j) (timestampOf j) := by
  cases j with
  | null => exact .skipped id (by simp [IsInfinite])
  | array items => exact .skipped id (by simp [IsInfinite])
  | object members => exact .skipped id (by simp [IsInfinite])
  | bool b => exact .read (by simp [IsTimestamp]) (by simp [IsInfinite]) _
  | int i => exact .read (by simp [IsTimestamp]) (by simp [IsInfinite]) _
  | str s =>
    have hfinite : ¬IsInfinite (.str s) := by simp [IsInfinite]
    simp only [timestampOf, IsTimestamp]
    cases Number.readInt 10 s.toList with
    | error fault => exact .skipped (by simp) hfinite
    | ok i => exact .read ⟨i, rfl⟩ hfinite i
  | float x =>
    cases x with
    | nan => exact .skipped (by simp [IsTimestamp]) (by simp [IsInfinite])
    | infinite negative =>
      exact .brokeOff (by simp [IsTimestamp]) ⟨negative, rfl⟩ (by decide)
    | finite negative significand exponent =>
      exact .read ⟨negative, significand, exponent, rfl⟩ (by simp [IsInfinite]) _

theorem reads_requiredTimestamp (j : Json) :
    Reads (∃ v, j.member? "timestamp" = some v ∧ IsTimestamp v)
      (∃ v, j.member? "timestamp" = some v ∧ IsInfinite v) (requiredTimestamp j) := by
  unfold requiredTimestamp
  cases j.member? "timestamp" with
  | none => exact .skipped (by simp) (by simp)
  | some v => exact (reads_timestampOf v).congr (by simp) (by simp)

theorem isObject_of_member {j : Json} {key : String} (h : HasMember j key) : IsObject j := by
  cases j with
  | object members => exact ⟨members, rfl⟩
  | null | bool | int | float | str | array => simp [HasMember, Json.member?] at h

theorem edgeOf_of_not_isObject {j : Json} (h : ¬IsObject j) :
    edgeOf j = .error .relationshipNotMapping := by
  cases j with
  | object members => exact absurd ⟨members, rfl⟩ h
  | null | bool | int | float | str | array => rfl

theorem reads_edgeOf (j : Json) : Reads (IsRelationship j) (¬IsObject j) (edgeOf j) := by
  by_cases hobject : IsObject j
  · obtain ⟨members, rfl⟩ := hobject
    have hsource := reads_requiredText (.object members) "from"
    have htarget := reads_requiredText (.object members) "to"
    have hmade (e : Edge) : Reads True False (.ok e) := .read trivial id e
    have hread := hsource.bind fun source _ => htarget.bind fun target _ => hmade
      { source, target
        label := (((Json.object members).member? "label").filter fun v => !v.isNull).map textOf }
    exact hread.congr (by simp [IsRelationship]) (by simp [IsObject])
  · rw [edgeOf_of_not_isObject hobject]
    have hends : ¬IsRelationship j := fun h => hobject (isObject_of_member h.1)
    exact .brokeOff hends hobject (by decide)

theorem breaksAmong_cons {j : Json} {rest : List Json} :
    BreaksAmong (j :: rest) ↔ ¬IsObject j ∨ IsRelationship j ∧ BreaksAmong rest := by
  constructor
  · rintro ⟨before, bad, after, hitems, hbefore, hbad⟩
    cases before with
    | nil =>
      obtain ⟨rfl, -⟩ := List.cons.inj hitems
      exact .inl hbad
    | cons first before =>
      obtain ⟨rfl, hrest⟩ := List.cons.inj hitems
      obtain ⟨hfirst, hbefore⟩ := List.forall_mem_cons.1 hbefore
      exact .inr ⟨hfirst, before, bad, after, hrest, hbefore, hbad⟩
  · rintro (hbad | ⟨hfirst, before, bad, after, rfl, hbefore, hbad⟩)
    · exact ⟨[], j, rest, rfl, by simp, hbad⟩
    · exact ⟨j :: before, bad, after, rfl, List.forall_mem_cons.2 ⟨hfirst, hbefore⟩, hbad⟩

theorem reads_mapM_edgeOf (items : List Json) :
    Reads (∀ r ∈ items, IsRelationship r) (BreaksAmong items) (items.mapM edgeOf) := by
  induction items with
  | nil => exact .read (by simp) (by simp [BreaksAmong]) []
  | cons j rest ih =>
    have hmade (edges : List Edge) : Reads True False (.ok edges) := .read trivial id edges
    have hread := (reads_edgeOf j).bind fun e _ => ih.bind fun edges _ => hmade (e :: edges)
    rw [List.mapM_cons]
    exact hread.congr (by simp) (by simp [breaksAmong_cons])

/-! ### Entries -/

/-- A well-formed entry. -/
structure IsEntry (j : Json) : Prop where
  nodes : HasArray j "nodes"
  relationships : ∃ items, j.member? "relationships" = some (.array items) ∧
    ∀ r ∈ items, IsRelationship r
  labels : HasLabels j
  timestamp : ∃ v, j.member? "timestamp" = some v ∧ IsTimestamp v
  diagramType : HasMember j "diagramType"

/-- What makes the reading break off: an infinite timestamp, or relationships that break off, in
what is otherwise read without a complaint. -/
structure IsFatal (j : Json) : Prop where
  nodes : HasArray j "nodes"
  relationships : HasArray j "relationships"
  labels : HasLabels j
  breaksOff : (∃ v, j.member? "timestamp" = some v ∧ IsInfinite v) ∨
    (∃ v, j.member? "timestamp" = some v ∧ IsTimestamp v) ∧ HasMember j "diagramType" ∧
      ∃ items, j.member? "relationships" = some (.array items) ∧ BreaksAmong items

theorem reads_ofJson (key : String) (j : Json) :
    Reads (IsEntry j) (IsFatal j) (ofJson key j) := by
  have hmade (e : Entry) : Reads True False (.ok e) := .read trivial id e
  have hedges (relationships : List Json)
      (h : requiredArray j "relationships" = .ok relationships) :
      Reads (∃ items, j.member? "relationships" = some (.array items) ∧
          ∀ r ∈ items, IsRelationship r)
        (∃ items, j.member? "relationships" = some (.array items) ∧ BreaksAmong items)
        (relationships.mapM edgeOf) := by
    rw [requiredArray_eq_ok_iff] at h
    exact (reads_mapM_edgeOf relationships).congr (by simp [h]) (by simp [h])
  have hread := (reads_requiredArray j "nodes").bind fun nodes _ =>
    (reads_requiredArray j "relationships").bind fun relationships hrelationships =>
    (reads_labelsOf j).bind fun labels _ =>
    (reads_requiredTimestamp j).bind fun timestamp _ =>
    (reads_requiredText j "diagramType").bind fun diagramType _ =>
    (hedges relationships hrelationships).bind fun edges _ => hmade
      { contentHash := ((j.member? "contentHash").map textOf).getD key
        timestamp, diagramType, nodes := nodes.map textOf, edges
        filePath := (j.member? "filePath").getD .null
        labels, version := ((j.member? "version").map textOf).getD formatVersion }
  refine hread.congr ⟨?_, ?_⟩ ⟨?_, ?_⟩
  · rintro ⟨hnodes, -, hlabels, htimestamp, htype, hitems, -⟩
    exact ⟨hnodes, hitems, hlabels, htimestamp, htype⟩
  · rintro ⟨hnodes, hitems, hlabels, htimestamp, htype⟩
    exact ⟨hnodes, hitems.imp fun _ h => h.1, hlabels, htimestamp, htype, hitems, trivial⟩
  · rintro (h | ⟨hnodes, h | ⟨hlist, h | ⟨hlabels, hinfinite | ⟨htimestamp, hrest⟩⟩⟩⟩)
    · exact h.elim
    · exact h.elim
    · exact h.elim
    · exact ⟨hnodes, hlist, hlabels, .inl hinfinite⟩
    · rcases hrest with h | ⟨htype, hbreaks | ⟨-, h⟩⟩
      · exact h.elim
      · exact ⟨hnodes, hlist, hlabels, .inr ⟨htimestamp, htype, hbreaks⟩⟩
      · exact h.elim
  · rintro ⟨hnodes, hlist, hlabels, hinfinite | ⟨htimestamp, htype, hbreaks⟩⟩
    · exact .inr ⟨hnodes, .inr ⟨hlist, .inr ⟨hlabels, .inl hinfinite⟩⟩⟩
    · exact .inr ⟨hnodes, .inr ⟨hlist, .inr ⟨hlabels, .inr ⟨htimestamp, .inr ⟨htype, .inl hbreaks⟩⟩⟩⟩⟩

theorem exists_ofJson_iff (key : String) (j : Json) :
    (∃ e, ofJson key j = .ok e) ↔ IsEntry j := by
  have hreads := reads_ofJson key j
  cases hread : ofJson key j with
  | ok e =>
    rw [hread] at hreads
    cases hreads with
    | read hentry => exact iff_of_true ⟨e, rfl⟩ hentry
  | error fault =>
    rw [hread] at hreads
    refine iff_of_false (fun ⟨_, h⟩ => nomatch h) ?_
    cases hreads with
    | brokeOff hentry => exact hentry
    | skipped hentry => exact hentry

/-- An entry without a version counts as one of the present version. -/
def IsCurrent (j : Json) : Prop := ∀ v, j.member? "version" = some v → textOf v = formatVersion

theorem version_of_ofJson {key : String} {j : Json} {e : Entry} (h : ofJson key j = .ok e) :
    e.version = formatVersion ↔ IsCurrent j := by
  unfold ofJson at h
  obtain ⟨nodes, -, h⟩ := exists_of_bind_ok h
  obtain ⟨relationships, -, h⟩ := exists_of_bind_ok h
  obtain ⟨labels, -, h⟩ := exists_of_bind_ok h
  obtain ⟨timestamp, -, h⟩ := exists_of_bind_ok h
  obtain ⟨diagramType, -, h⟩ := exists_of_bind_ok h
  obtain ⟨edges, -, h⟩ := exists_of_bind_ok h
  obtain rfl := Except.ok.inj h
  unfold IsCurrent
  cases j.member? "version" with
  | none => simp
  | some v => simp

end DocTrace.AnalysisCache.Entry
