import DocTrace.Proofs.Value.Equality
import DocTrace.Proofs.Value.Mapping

/-! Looking up a key of any kind. Values that can be keys are equal as numbers, texts and dates are,
so a mapping has at most one value for each of them, and a mapping that was merged into another one
can be merged into it again without a change. -/

namespace DocTrace

namespace Value

/-! ### Keys -/

theorem eqNumber_symm {m n : ℤ ⊕ Binary64} (h : eqNumber m n = true) : eqNumber n m = true := by
  rcases m with i | x <;> rcases n with j | y
  · exact decide_eq_true (of_decide_eq_true h).symm
  · exact h
  · exact h
  · cases x <;> cases y <;>
      simp_all only [eqNumber, Binary64.eqValue, Bool.or_eq_true, Bool.and_eq_true,
        decide_eq_true_eq, Bool.false_eq_true]
    all_goals exact h.imp And.symm Eq.symm

theorem moment_eqValue_symm {s t : Moment} (h : s.eqValue t = true) : t.eqValue s = true := by
  unfold Moment.eqValue at *
  cases hs : s.offset <;> cases ht : t.offset <;> simp_all

/-- A value under which others can be stored and found again. A number that is not equal to
itself is none. -/
structure IsKey (v : Value) : Prop where
  hashable : v.isHashable = true
  canonical : v.IsCanonical
  self : v.eqValue v = true

theorem IsCanonical.eqValue_symm {v w : Value} (hcanonical : v.IsCanonical)
    (hhashable : v.isHashable = true) (h : v.eqValue w = true) : w.eqValue v = true := by
  induction hcanonical generalizing w with
  | bool | int | float =>
    obtain ⟨n, hn, hsame⟩ := (eqValue_of_number rfl).1 h
    exact (eqValue_of_number hn).2 ⟨_, rfl, eqNumber_symm hsame⟩
  | null | str | date | bytes =>
    cases w <;> simp [eqValue, eqScalar, number?] at h
    all_goals simp [eqValue, eqScalar, number?, h]
  | moment s =>
    cases w <;> simp [eqValue, eqScalar, number?] at h
    simpa [eqValue, eqScalar, number?] using moment_eqValue_symm h
  | pair _ _ ihx ihy =>
    rw [isHashable, Bool.and_eq_true] at hhashable
    cases w <;> simp only [eqValue, Bool.and_eq_true, Bool.false_eq_true] at h
    simp only [eqValue, Bool.and_eq_true]
    exact ⟨ihx hhashable.1 h.1, ihy hhashable.2 h.2⟩
  | list | map | set | knot | again => simp [isHashable] at hhashable

variable {a b c : Value}

theorem IsKey.symm (ha : a.IsKey) (h : a.eqValue b = true) : b.eqValue a = true :=
  ha.canonical.eqValue_symm ha.hashable h

theorem IsKey.congr (ha : a.IsKey) (hb : b.IsKey) (hc : c.IsKey) (h : a.eqValue b = true) :
    a.eqValue c = b.eqValue c := by
  rw [Bool.eq_iff_iff]
  exact ⟨hb.canonical.eqValue_trans ha.canonical hc.canonical (ha.symm h),
    ha.canonical.eqValue_trans hb.canonical hc.canonical h⟩

theorem IsKey.congr_right (ha : a.IsKey) (hb : b.IsKey) (hc : c.IsKey) (h : b.eqValue c = true) :
    a.eqValue b = a.eqValue c := by
  rw [Bool.eq_iff_iff]
  exact ⟨fun hab => ha.canonical.eqValue_trans hb.canonical hc.canonical hab h,
    fun hac => ha.canonical.eqValue_trans hc.canonical hb.canonical hac (hb.symm h)⟩

theorem isKey_str (s : String) : IsKey (.str s) where
  hashable := rfl
  canonical := .str s
  self := by simp [eqValue, eqScalar, number?]

theorem eqValue_str_iff {v : Value} {s : String} :
    v.eqValue (.str s) = true ↔ v.asString? = some s :=
  ⟨fun h => asString?_of_eqValue h, fun h => eqValue_of_asString? h rfl⟩

end Value

namespace Mapping

/-! ### Values of keys -/

/-- The value of a key of any kind. -/
def value? (m : Mapping) (key : Value) : Option Value :=
  (List.find? (fun e => e.1.eqValue key) m).map (·.2)

/-- Every key can be found, and stands once. -/
structure IsDict (m : Mapping) : Prop where
  keys : ∀ e ∈ m, e.1.IsKey
  distinct : List.Pairwise (fun e f => e.1.eqValue f.1 = false) m

theorem isDict_of_names {fields : List (String × Value)} (h : (fields.map (·.1)).Nodup) :
    IsDict (fields.map fun e => (.str e.1, e.2)) where
  keys e he := by
    obtain ⟨field, -, rfl⟩ := List.mem_map.1 he
    exact Value.isKey_str field.1
  distinct := by
    refine List.pairwise_map.2 ((List.pairwise_map.1 h).imp fun {e f} hne => ?_)
    rw [← Bool.not_eq_true, Value.eqValue_str_iff]
    exact fun hsame => hne (Option.some.inj hsame)

theorem value?_str (m : Mapping) (key : String) : m.value? (.str key) = m.find? key := by
  have hsame (e : Value × Value) :
      e.1.eqValue (.str key) = decide (e.1.asString? = some key) := by
    rw [Bool.eq_iff_iff, Value.eqValue_str_iff, decide_eq_true_eq]
  simp only [value?, find?, hsame]

variable {m other : Mapping} {key value : Value}

theorem value?_cons (e : Value × Value) (m : Mapping) (key : Value) :
    value? (e :: m) key = if e.1.eqValue key then some e.2 else m.value? key := by
  rw [value?, List.find?_cons]
  cases e.1.eqValue key <;> rfl

theorem IsDict.value?_of_mem (hm : m.IsDict) (hkey : key.IsKey) {e : Value × Value} (he : e ∈ m)
    (hsame : e.1.eqValue key = true) : m.value? key = some e.2 := by
  induction m with
  | nil => contradiction
  | cons first rest ih =>
    obtain ⟨hfirst, hrest⟩ := List.forall_mem_cons.1 hm.keys
    obtain ⟨hnew, hdistinct⟩ := List.pairwise_cons.1 hm.distinct
    rw [value?_cons]
    rcases List.mem_cons.1 he with rfl | he
    · rw [if_pos hsame]
    · have hother : first.1.eqValue key = false :=
        (hfirst.congr_right (hrest e he) hkey hsame).symm.trans (hnew e he)
      rw [hother, if_neg Bool.false_ne_true]
      exact ih ⟨hrest, hdistinct⟩ he

theorem any_eq_isSome_value? (m : Mapping) (key : Value) :
    (List.any m fun e => e.1.eqValue key) = (m.value? key).isSome := by
  rw [value?, Option.isSome_map, Bool.eq_iff_iff, List.any_eq_true, List.find?_isSome]

theorem value?_replaced (hm : ∀ e ∈ m, e.1.IsKey) (hkey : key.IsKey) {sought : Value}
    (hsought : sought.IsKey) :
    value? (m.map fun e => if e.1.eqValue key then (e.1, value) else e) sought =
      if key.eqValue sought then (m.value? sought).map fun _ => value else m.value? sought := by
  induction m with
  | nil => simp [value?]
  | cons e rest ih =>
    obtain ⟨he, hrest⟩ := List.forall_mem_cons.1 hm
    rw [List.map_cons, value?_cons, value?_cons, ih hrest]
    by_cases hsame : e.1.eqValue key = true
    · rw [if_pos hsame, he.congr hkey hsought hsame]
      cases key.eqValue sought <;> rfl
    · rw [if_neg hsame]
      by_cases hfound : key.eqValue sought = true
      · have hother : e.1.eqValue sought = false := by
          rw [← he.congr_right hkey hsought hfound]
          exact Bool.eq_false_iff.2 hsame
        simp only [hother, hfound, if_true, Bool.false_eq_true, if_false]
      · simp only [hfound, Bool.false_eq_true, if_false]

theorem value?_put (hm : ∀ e ∈ m, e.1.IsKey) (hkey : key.IsKey) {sought : Value}
    (hsought : sought.IsKey) : (m.put key value).value? sought =
      if key.eqValue sought then some value else m.value? sought := by
  have hsame (h : key.eqValue sought = true) : m.value? sought = m.value? key := by
    induction m with
    | nil => rfl
    | cons e rest ih =>
      obtain ⟨he, hrest⟩ := List.forall_mem_cons.1 hm
      rw [value?_cons, value?_cons, he.congr_right hkey hsought h, ih hrest]
  unfold put
  rw [any_eq_isSome_value?]
  split
  · next hthere =>
    rw [value?_replaced hm hkey hsought]
    split
    · next hfound =>
      obtain ⟨v, hv⟩ := Option.isSome_iff_exists.1 hthere
      rw [hsame hfound, hv]
      rfl
    · rfl
  · next hnone =>
    rw [value?, List.find?_append, Option.map_or]
    by_cases hfound : key.eqValue sought = true
    · have hnew : m.value? sought = none := by simpa [hsame hfound] using hnone
      rw [value?] at hnew
      simp [hnew, hfound]
    · simp [hfound, value?]

theorem IsDict.put (hm : m.IsDict) (hkey : key.IsKey) (value : Value) :
    (m.put key value).IsDict := by
  unfold Mapping.put
  split
  · refine ⟨?_, ?_⟩
    · intro e he
      obtain ⟨f, hf, rfl⟩ := List.mem_map.1 he
      split <;> exact hm.keys f hf
    · refine List.pairwise_map.2 (hm.distinct.imp fun {e f} hdistinct => ?_)
      split <;> split <;> exact hdistinct
  · next hnone =>
    refine ⟨?_, ?_⟩
    · intro e he
      rcases List.mem_append.1 he with he | he
      · exact hm.keys e he
      · rw [List.mem_singleton.1 he]
        exact hkey
    · refine List.pairwise_append.2 ⟨hm.distinct, List.pairwise_singleton .., fun e he f hf => ?_⟩
      rw [List.mem_singleton.1 hf]
      exact Bool.eq_false_iff.2 fun hsame => hnone (List.any_eq_true.2 ⟨e, he, hsame⟩)

theorem IsDict.put_of_value? (hm : m.IsDict) (hkey : key.IsKey) (h : m.value? key = some value) :
    m.put key value = m := by
  unfold Mapping.put
  rw [any_eq_isSome_value?, h, Option.isSome_some, if_pos rfl]
  refine (List.map_congr_left fun e he => ?_).trans (List.map_id _)
  split
  · next hsame =>
    have hvalue := hm.value?_of_mem hkey he hsame
    rw [Option.some.inj (h.symm.trans hvalue)]
    rfl
  · rfl

/-! ### Merged mappings -/

theorem merge_cons (m : Mapping) (e : Value × Value) (rest : Mapping) :
    m.merge (e :: rest) = (m.put e.1 e.2).merge rest := rfl

theorem IsDict.tail {e : Value × Value} (h : IsDict (e :: m)) : m.IsDict :=
  ⟨fun f hf => h.keys f (List.mem_cons_of_mem e hf), (List.pairwise_cons.1 h.distinct).2⟩

theorem IsDict.merge (hm : m.IsDict) (hother : other.IsDict) : (m.merge other).IsDict := by
  induction other generalizing m with
  | nil => exact hm
  | cons e rest ih => exact ih (hm.put (hother.keys e (List.mem_cons_self ..)) e.2) hother.tail

/-- A key that both mappings have gets the value of the second. -/
theorem IsDict.value?_merge (hm : m.IsDict) (hother : other.IsDict) (hkey : key.IsKey) :
    (m.merge other).value? key = (other.value? key).or (m.value? key) := by
  induction other generalizing m with
  | nil => rfl
  | cons e rest ih =>
    have he := hother.keys e (List.mem_cons_self ..)
    rw [merge_cons, ih (hm.put he e.2) hother.tail, value?_put hm.keys he hkey, value?_cons]
    split
    · next hsame =>
      have hnew : value? rest key = none := by
        rw [value?, Option.map_eq_none_iff, List.find?_eq_none]
        intro f hf hfound
        have hf' := hother.tail.keys f hf
        have hdistinct := (List.pairwise_cons.1 hother.distinct).1 f hf
        rw [he.congr_right hf' hkey hfound, hsame] at hdistinct
        contradiction
      rw [hnew]
      rfl
    · rfl

theorem IsDict.merge_eq_self (hm : m.IsDict) (hother : ∀ e ∈ other, e.1.IsKey)
    (h : ∀ e ∈ other, m.value? e.1 = some e.2) : m.merge other = m := by
  induction other with
  | nil => rfl
  | cons e rest ih =>
    rw [List.forall_mem_cons] at hother h
    rw [merge_cons, hm.put_of_value? hother.1 h.1]
    exact ih hother.2 h.2

theorem IsDict.value?_self (hm : m.IsDict) {e : Value × Value} (he : e ∈ m) :
    m.value? e.1 = some e.2 := hm.value?_of_mem (hm.keys e he) he (hm.keys e he).self

/-- A mapping says the same when it is merged with itself, and a second merge changes nothing. -/
theorem IsDict.merge_self (hm : m.IsDict) : m.merge m = m :=
  hm.merge_eq_self hm.keys fun _ he => hm.value?_self he

theorem IsDict.merge_merge (hm : m.IsDict) (hother : other.IsDict) :
    (m.merge other).merge other = m.merge other := by
  refine (hm.merge hother).merge_eq_self hother.keys fun e he => ?_
  rw [hm.value?_merge hother (hother.keys e he), hother.value?_self he]
  rfl

theorem IsDict.nodup_names (hm : m.IsDict) : m.names.Nodup := by
  refine List.pairwise_filterMap.2 (hm.distinct.imp fun {e f} hdistinct s hs t ht => ?_)
  rintro rfl
  rw [Value.eqValue_of_asString? hs ht] at hdistinct
  contradiction

end Mapping

end DocTrace
