import DocTrace.Proofs.Number.Rounding
import DocTrace.Value.Basic

/-! Equality of values can be chained. Integers, truth values and doubles are equal when they
stand for the same number, and a double has only one form for its number, apart from the
sign of zero. -/

namespace DocTrace

/-! ### Numbers -/

namespace Binary64

theorem ratio_spec (significand : ℕ) (exponent : ℤ) :
    0 < (ratio significand exponent).2 ∧
      ((ratio significand exponent).1 : ℚ) =
        significand * 2 ^ exponent * (ratio significand exponent).2 := by
  unfold ratio
  split
  · next h =>
    obtain ⟨n, rfl⟩ := Int.eq_ofNat_of_zero_le h
    refine ⟨one_pos, ?_⟩
    simp
  · next h =>
    obtain ⟨n, rfl⟩ : ∃ n : ℕ, exponent = -n := ⟨(-exponent).toNat, by omega⟩
    refine ⟨by simp, ?_⟩
    simp

def signed (negative : Bool) (q : ℚ) : ℚ := if negative then -q else q

theorem signed_eq_zero_iff {negative : Bool} {q : ℚ} : signed negative q = 0 ↔ q = 0 := by
  unfold signed
  split
  · exact neg_eq_zero
  · exact Iff.rfl

theorem signed_inj {a b : Bool} {p q : ℚ} (hp : 0 < p) (hq : 0 < q)
    (h : signed a p = signed b q) : a = b ∧ p = q := by
  cases a <;> cases b <;> simp only [signed, if_true, Bool.false_eq_true, if_false] at h
  · exact ⟨rfl, h⟩
  · linarith
  · linarith
  · exact ⟨rfl, neg_inj.1 h⟩

/-- The number that a double stands for: a rational one, or an infinite one with its sign. -/
def number? : Binary64 → Option (ℚ ⊕ Bool)
  | .nan => none
  | .infinite negative => some (.inr negative)
  | .finite negative significand exponent =>
    some (.inl (signed negative (significand * 2 ^ exponent)))

theorem eqInt_iff {x : Binary64} {i : ℤ} : x.eqInt i = true ↔ x.number? = some (.inl (i : ℚ)) := by
  cases x with
  | nan => simp [eqInt, ratio?, number?]
  | infinite negative => simp [eqInt, ratio?, number?]
  | finite negative significand exponent =>
    obtain ⟨hpos, hratio⟩ := ratio_spec significand exponent
    have hden : ((ratio significand exponent).2 : ℚ) ≠ 0 := Nat.cast_ne_zero.2 hpos.ne'
    have hnum : (((if negative then -((ratio significand exponent).1 : ℤ)
        else (ratio significand exponent).1) : ℤ) : ℚ) =
          signed negative (significand * 2 ^ exponent) * (ratio significand exponent).2 := by
      cases negative
      · simpa [signed] using hratio
      · simpa [signed] using hratio
    simp only [eqInt, ratio?, number?, decide_eq_true_eq, Option.some.injEq, Sum.inl.injEq]
    rw [← @Int.cast_inj ℚ, hnum, Int.cast_mul, Int.cast_natCast]
    exact mul_left_inj' hden

theorem eqValue_iff {x y : Binary64} (hx : x.IsCanonical) (hy : y.IsCanonical) :
    x.eqValue y = true ↔ ∃ v, x.number? = some v ∧ y.number? = some v := by
  cases x with
  | nan => simp [eqValue, number?]
  | infinite a => cases y <;> simp [eqValue, number?, isZero, eq_comm]
  | finite a m p =>
    cases y with
    | nan => simp [eqValue, number?]
    | infinite b => simp [eqValue, number?, isZero]
    | finite b n q =>
      have hp : (0 : ℚ) < 2 ^ p := zpow_pos (by norm_num) p
      have hq : (0 : ℚ) < 2 ^ q := zpow_pos (by norm_num) q
      simp only [eqValue, isZero, number?, Bool.or_eq_true, Bool.and_eq_true, decide_eq_true_eq,
        Option.some.injEq, exists_eq_left', Sum.inl.injEq]
      constructor
      · rintro (⟨rfl, rfl⟩ | heq)
        · simp [signed]
        · cases heq
          rfl
      · intro hvalue
        rcases Nat.eq_zero_or_pos m with rfl | hm
        · left
          rw [Nat.cast_zero, zero_mul, signed_eq_zero_iff.2 rfl] at hvalue
          have hzero := signed_eq_zero_iff.1 hvalue
          exact ⟨rfl, by simpa [hq.ne'] using hzero⟩
        · right
          rcases Nat.eq_zero_or_pos n with rfl | hn
          · rw [Nat.cast_zero, zero_mul, signed_eq_zero_iff.2 rfl] at hvalue
            have hzero := signed_eq_zero_iff.1 hvalue.symm
            simp [hp.ne', hm.ne'] at hzero
          · obtain ⟨hsign, hsame⟩ := signed_inj (by positivity) (by positivity) hvalue
            rw [← nearest_of_canonical hx a, ← hsame, ← hsign, nearest_of_canonical hy b]

end Binary64

namespace Value

/-- The exact number that is compared. -/
def numeric? : ℤ ⊕ Binary64 → Option (ℚ ⊕ Bool)
  | .inl i => some (.inl i)
  | .inr x => x.number?

def IsCanonicalNumber : ℤ ⊕ Binary64 → Prop
  | .inl _ => True
  | .inr x => x.IsCanonical

theorem eqNumber_iff {m n : ℤ ⊕ Binary64} (hm : IsCanonicalNumber m) (hn : IsCanonicalNumber n) :
    eqNumber m n = true ↔ ∃ v, numeric? m = some v ∧ numeric? n = some v := by
  cases m with
  | inl i =>
    cases n with
    | inl j => simp [eqNumber, numeric?, eq_comm]
    | inr y => simp [eqNumber, numeric?, Binary64.eqInt_iff]
  | inr x =>
    cases n with
    | inl j => simp [eqNumber, numeric?, Binary64.eqInt_iff, and_comm]
    | inr y => exact Binary64.eqValue_iff hm hn

theorem eqNumber_trans {l m n : ℤ ⊕ Binary64} (hl : IsCanonicalNumber l)
    (hm : IsCanonicalNumber m) (hn : IsCanonicalNumber n) (hlm : eqNumber l m = true)
    (hmn : eqNumber m n = true) : eqNumber l n = true := by
  obtain ⟨v, hlv, hmv⟩ := (eqNumber_iff hl hm).1 hlm
  obtain ⟨w, hmw, hnw⟩ := (eqNumber_iff hm hn).1 hmn
  obtain rfl : v = w := Option.some.inj (hmv.symm.trans hmw)
  exact (eqNumber_iff hl hn).2 ⟨v, hlv, hnw⟩

/-! ### Values -/

/-- Values in which every double has the only form for its number. -/
inductive IsCanonical : Value → Prop
  | null : IsCanonical .null
  | bool (b : Bool) : IsCanonical (.bool b)
  | int (i : ℤ) : IsCanonical (.int i)
  | float {x : Binary64} (h : x.IsCanonical) : IsCanonical (.float x)
  | str (s : String) : IsCanonical (.str s)
  | date (d : Date) : IsCanonical (.date d)
  | moment (t : Moment) : IsCanonical (.moment t)
  | bytes (content : List UInt8) : IsCanonical (.bytes content)
  | list {items : List Value} (h : ∀ v ∈ items, IsCanonical v) : IsCanonical (.list items)
  | pair {x y : Value} (hx : IsCanonical x) (hy : IsCanonical y) : IsCanonical (.pair x y)
  | map {entries : Mapping} (hkeys : ∀ e ∈ entries, IsCanonical e.1)
    (hvalues : ∀ e ∈ entries, IsCanonical e.2) : IsCanonical (.map entries)
  | set {items : List Value} (h : ∀ v ∈ items, IsCanonical v) : IsCanonical (.set items)
  | knot (label : ℕ) {content : Value} (h : IsCanonical content) :
    IsCanonical (.knot label content)
  | again (label : ℕ) (isMap : Bool) : IsCanonical (.again label isMap)

theorem IsCanonical.number {v : Value} (hv : v.IsCanonical) {m : ℤ ⊕ Binary64}
    (h : v.number? = some m) : IsCanonicalNumber m := by
  cases hv with
  | float hx => exact Option.some.inj h ▸ hx
  | bool | int => exact Option.some.inj h ▸ trivial
  | null | str | date | moment | bytes | list | pair | map | set | knot | again =>
    simp [number?] at h

theorem eqValue_of_number {a b : Value} {m : ℤ ⊕ Binary64} (ha : a.number? = some m) :
    a.eqValue b = true ↔ ∃ n, b.number? = some n ∧ eqNumber m n = true := by
  have hscalar : a.eqValue b = eqScalar a b := by
    cases a <;> simp [number?] at ha <;> simp [eqValue]
  rw [hscalar]
  cases hb : b.number? <;> simp [eqScalar, ha, hb]

theorem isNull_of_eqValue {v w : Value} (h : v.eqValue w = true) : v.isNull = w.isNull := by
  cases v <;> cases w <;> simp [eqValue, eqScalar, number?] at h <;> rfl

theorem eqItems_trans {xs ys zs : List Value}
    (h : ∀ x ∈ xs, ∀ y ∈ ys, ∀ z ∈ zs, eqValue x y = true → eqValue y z = true →
      eqValue x z = true)
    (hxy : eqItems xs ys = true) (hyz : eqItems ys zs = true) : eqItems xs zs = true := by
  induction xs generalizing ys zs with
  | nil =>
    cases ys with
    | nil => exact hyz
    | cons y ys => simp [eqItems] at hxy
  | cons x xs ih =>
    cases ys with
    | nil => simp [eqItems] at hxy
    | cons y ys =>
      cases zs with
      | nil => simp [eqItems] at hyz
      | cons z zs =>
        simp only [eqItems, Bool.and_eq_true] at hxy hyz ⊢
        have hhead := h x (List.mem_cons_self ..) y (List.mem_cons_self ..) z
          (List.mem_cons_self ..) hxy.1 hyz.1
        refine ⟨hhead, ih (fun u hu v hv w hw => ?_) hxy.2 hyz.2⟩
        exact h u (List.mem_cons_of_mem x hu) v (List.mem_cons_of_mem y hv) w
          (List.mem_cons_of_mem z hw)

theorem coversItems_iff {xs ys : List Value} :
    coversItems xs ys = true ↔ ∀ x ∈ xs, ∃ y ∈ ys, eqValue x y = true := by
  induction xs with
  | nil => simp [coversItems]
  | cons x xs ih => simp [coversItems, ih]

theorem coversEntries_iff {xs ys : Mapping} :
    coversEntries xs ys = true ↔
      ∀ x ∈ xs, ∃ y ∈ ys, eqValue x.1 y.1 = true ∧ eqValue x.2 y.2 = true := by
  induction xs with
  | nil => simp [coversEntries]
  | cons x xs ih =>
    obtain ⟨key, value⟩ := x
    simp only [coversEntries, Bool.and_eq_true, List.any_eq_true, ih, List.forall_mem_cons]

theorem coversItems_trans {xs ys zs : List Value}
    (h : ∀ x ∈ xs, ∀ y ∈ ys, ∀ z ∈ zs, eqValue x y = true → eqValue y z = true →
      eqValue x z = true)
    (hxy : coversItems xs ys = true) (hyz : coversItems ys zs = true) :
    coversItems xs zs = true := by
  rw [coversItems_iff] at hxy hyz ⊢
  intro x hx
  obtain ⟨y, hy, hfirst⟩ := hxy x hx
  obtain ⟨z, hz, hsecond⟩ := hyz y hy
  exact ⟨z, hz, h x hx y hy z hz hfirst hsecond⟩

theorem coversEntries_trans {xs ys zs : Mapping}
    (hkeys : ∀ x ∈ xs, ∀ y ∈ ys, ∀ z ∈ zs, eqValue x.1 y.1 = true → eqValue y.1 z.1 = true →
      eqValue x.1 z.1 = true)
    (hvalues : ∀ x ∈ xs, ∀ y ∈ ys, ∀ z ∈ zs, eqValue x.2 y.2 = true → eqValue y.2 z.2 = true →
      eqValue x.2 z.2 = true)
    (hxy : coversEntries xs ys = true) (hyz : coversEntries ys zs = true) :
    coversEntries xs zs = true := by
  rw [coversEntries_iff] at hxy hyz ⊢
  intro x hx
  obtain ⟨y, hy, hxkey, hxvalue⟩ := hxy x hx
  obtain ⟨z, hz, hykey, hyvalue⟩ := hyz y hy
  exact ⟨z, hz, hkeys x hx y hy z hz hxkey hykey, hvalues x hx y hy z hz hxvalue hyvalue⟩

theorem moment_eqValue_trans {s t u : Moment} (hst : s.eqValue t = true)
    (htu : t.eqValue u = true) : s.eqValue u = true := by
  unfold Moment.eqValue at *
  cases hs : s.offset <;> cases ht : t.offset <;> cases hu : u.offset <;>
    simp only [hs, ht, hu, decide_eq_true_eq, Bool.false_eq_true] at hst htu ⊢
  · exact hst.trans htu
  · exact hst.trans htu

theorem IsCanonical.eqValue_trans_of_number {a b c : Value} {m : ℤ ⊕ Binary64}
    (hm : a.number? = some m) (ha : a.IsCanonical) (hb : b.IsCanonical) (hc : c.IsCanonical)
    (hab : a.eqValue b = true) (hbc : b.eqValue c = true) : a.eqValue c = true := by
  obtain ⟨n, hn, hmn⟩ := (eqValue_of_number hm).1 hab
  obtain ⟨k, hk, hnk⟩ := (eqValue_of_number hn).1 hbc
  have hmk := eqNumber_trans (ha.number hm) (hb.number hn) (hc.number hk) hmn hnk
  exact (eqValue_of_number hm).2 ⟨k, hk, hmk⟩

/-- The induction is on the first value, whose shape the other two share. -/
theorem IsCanonical.eqValue_trans {a b c : Value} (ha : a.IsCanonical) (hb : b.IsCanonical)
    (hc : c.IsCanonical) (hab : a.eqValue b = true) (hbc : b.eqValue c = true) :
    a.eqValue c = true := by
  induction ha generalizing b c with
  | bool t => exact (IsCanonical.bool t).eqValue_trans_of_number rfl hb hc hab hbc
  | int i => exact (IsCanonical.int i).eqValue_trans_of_number rfl hb hc hab hbc
  | float hx => exact (IsCanonical.float hx).eqValue_trans_of_number rfl hb hc hab hbc
  | null | str | date | bytes =>
    cases b <;> simp [eqValue, eqScalar, number?] at hab
    all_goals
      first
      | exact hbc
      | exact hab ▸ hbc
  | moment s =>
    cases b <;> simp [eqValue, eqScalar, number?] at hab
    cases c <;> simp [eqValue, eqScalar, number?] at hbc
    simpa [eqValue, eqScalar, number?] using moment_eqValue_trans hab hbc
  | knot | again => cases b <;> simp [eqValue, eqScalar, number?] at hab
  | list _ ih =>
    cases hb <;> simp only [eqValue, Bool.false_eq_true] at hab
    next hys =>
    cases hc <;> simp only [eqValue, Bool.false_eq_true] at hbc
    next hzs =>
    rw [eqValue]
    exact eqItems_trans (fun x hx y hy z hz => ih x hx (hys y hy) (hzs z hz)) hab hbc
  | pair _ _ ihx ihy =>
    cases hb <;> simp only [eqValue, Bool.false_eq_true, Bool.and_eq_true] at hab
    next hu hv =>
    cases hc <;> simp only [eqValue, Bool.false_eq_true, Bool.and_eq_true] at hbc
    next hw hz =>
    simp only [eqValue, Bool.and_eq_true]
    exact ⟨ihx hu hw hab.1 hbc.1, ihy hv hz hab.2 hbc.2⟩
  | map _ _ ihkeys ihvalues =>
    cases hb <;> simp only [eqValue, Bool.false_eq_true, Bool.and_eq_true, decide_eq_true_eq]
      at hab
    next hbkeys hbvalues =>
    cases hc <;> simp only [eqValue, Bool.false_eq_true, Bool.and_eq_true, decide_eq_true_eq]
      at hbc
    next hckeys hcvalues =>
    simp only [eqValue, Bool.and_eq_true, decide_eq_true_eq]
    exact ⟨hab.1.trans hbc.1, coversEntries_trans
      (fun x hx y hy z hz => ihkeys x hx (hbkeys y hy) (hckeys z hz))
      (fun x hx y hy z hz => ihvalues x hx (hbvalues y hy) (hcvalues z hz)) hab.2 hbc.2⟩
  | set _ ih =>
    cases hb <;> simp only [eqValue, Bool.false_eq_true, Bool.and_eq_true, decide_eq_true_eq]
      at hab
    next hys =>
    cases hc <;> simp only [eqValue, Bool.false_eq_true, Bool.and_eq_true, decide_eq_true_eq]
      at hbc
    next hzs =>
    simp only [eqValue, Bool.and_eq_true, decide_eq_true_eq]
    exact ⟨hab.1.trans hbc.1, coversItems_trans
      (fun x hx y hy z hz => ih x hx (hys y hy) (hzs z hz)) hab.2 hbc.2⟩

end Value

end DocTrace
