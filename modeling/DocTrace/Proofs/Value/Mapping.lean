import DocTrace.Value.Basic

/-! What is found in a mapping. A mapping that is merged into another one overrides what it has
itself, and leaves the rest. -/

namespace DocTrace

theorem Value.asString?_eq_some_iff {v : Value} {s : String} :
    v.asString? = some s ↔ v = .str s := by
  cases v <;> simp [asString?]

theorem Value.asString?_of_eqValue {v w : Value} (h : v.eqValue w = true) :
    v.asString? = w.asString? := by
  cases v <;> cases w <;> simp [eqValue, eqScalar, number?] at h <;> simp_all [asString?]

theorem Value.eqValue_of_asString? {v w : Value} {s : String} (hv : v.asString? = some s)
    (hw : w.asString? = some s) : v.eqValue w = true := by
  obtain rfl := asString?_eq_some_iff.1 hv
  obtain rfl := asString?_eq_some_iff.1 hw
  simp [eqValue, eqScalar, number?]

namespace Mapping

/-- The names in a mapping: the keys that are texts. -/
def names (m : Mapping) : List String := List.filterMap (·.1.asString?) m

theorem find?_cons (e : Value × Value) (m : Mapping) (key : String) :
    find? (e :: m) key = if e.1.asString? = some key then some e.2 else m.find? key := by
  rw [find?, List.find?_cons]
  by_cases h : e.1.asString? = some key <;> simp [h, find?]

theorem mem_names_iff {m : Mapping} {key : String} : key ∈ m.names ↔ (m.find? key).isSome := by
  simp [names, find?]

theorem find?_eq_none_iff {m : Mapping} {key : String} : m.find? key = none ↔ key ∉ m.names := by
  rw [mem_names_iff, Option.not_isSome_iff_eq_none]

theorem exists_mem_of_find? {m : Mapping} {key : String} {v : Value} (h : m.find? key = some v) :
    ∃ e ∈ m, e.2 = v := by
  obtain ⟨e, he, rfl⟩ := Option.map_eq_some_iff.1 h
  exact ⟨e, List.mem_of_find?_eq_some he, rfl⟩

theorem find?_replaced (m : Mapping) (k value : Value) (key : String) :
    find? (m.map fun e => if e.1.eqValue k then (e.1, value) else e) key =
      if k.asString? = some key then (m.find? key).map fun _ => value else m.find? key := by
  induction m with
  | nil => simp [find?]
  | cons e rest ih =>
    rw [List.map_cons, find?_cons, find?_cons, ih]
    by_cases hsame : e.1.eqValue k = true
    · rw [if_pos hsame, Value.asString?_of_eqValue hsame]
      split <;> rfl
    · rw [if_neg hsame]
      by_cases hkey : e.1.asString? = some key
      · have hother : k.asString? ≠ some key := fun hk =>
          hsame (Value.eqValue_of_asString? hkey hk)
        simp only [if_neg hother, if_pos hkey]
      · simp only [if_neg hkey]

theorem find?_put (m : Mapping) (k value : Value) (key : String) :
    (m.put k value).find? key = if k.asString? = some key then some value else m.find? key := by
  -- An entry with the key is there if and only if there is one that is equal to `k`.
  have hthere (hk : k.asString? = some key) :
      (List.any m fun e => e.1.eqValue k) = (m.find? key).isSome := by
    rw [Bool.eq_iff_iff, List.any_eq_true, ← mem_names_iff, names, List.mem_filterMap]
    refine exists_congr fun e => and_congr_right fun _ => ⟨fun hsame => ?_, fun hkey => ?_⟩
    · rw [Value.asString?_of_eqValue hsame, hk]
    · exact Value.eqValue_of_asString? hkey hk
  unfold put
  split
  · next hany =>
    rw [find?_replaced]
    split
    · next hk =>
      obtain ⟨v, hv⟩ := Option.isSome_iff_exists.1 (hthere hk ▸ hany)
      rw [hv]
      rfl
    · rfl
  · next hnone =>
    rw [find?, List.find?_append, Option.map_or]
    by_cases hk : k.asString? = some key
    · have hnew : m.find? key = none := by simpa [hthere hk] using hnone
      rw [find?] at hnew
      simp [hk, hnew]
    · simp [hk, find?]

/-- What a filter of keys does not let through can be written before it. -/
theorem filter_put (m : Mapping) {k : Value} (value : Value) {p : Value → Bool} (hk : p k = false)
    (hp : ∀ key : Value, key.eqValue k = true → p key = false) :
    List.filter (fun e => p e.1) (m.put k value) = List.filter (fun e => p e.1) m := by
  have hreplaced : List.filter (fun e => p e.1)
      (m.map fun e => if e.1.eqValue k then (e.1, value) else e) =
        List.filter (fun e => p e.1) m := by
    induction m with
    | nil => rfl
    | cons e rest ih =>
      rw [List.map_cons, List.filter_cons, List.filter_cons, ih]
      by_cases hsame : e.1.eqValue k = true
      · simp [hsame, hp e.1 hsame]
      · simp [hsame]
  rw [put]
  split
  · exact hreplaced
  · simp [hk]

/-- A mapping overrides what it has once. -/
theorem find?_merge {m other : Mapping} (hnames : other.names.Nodup) (key : String) :
    (m.merge other).find? key = (other.find? key).or (m.find? key) := by
  induction other generalizing m with
  | nil => rfl
  | cons e rest ih =>
    have hrest : (names rest).Nodup := hnames.sublist ((List.sublist_cons_self e rest).filterMap _)
    have hmerge : m.merge (e :: rest) = (m.put e.1 e.2).merge rest := rfl
    rw [hmerge, ih hrest, find?_put, find?_cons]
    split
    · next hkey =>
      have hnew : find? rest key = none := by
        rw [find?_eq_none_iff]
        have hcons : names (e :: rest) = key :: names rest := List.filterMap_cons_some hkey
        rw [hcons] at hnames
        exact (List.nodup_cons.1 hnames).1
      rw [hnew]
      rfl
    · rfl

end Mapping

end DocTrace
