import DocTrace.Number.Binary64
import Mathlib.Algebra.Order.Field.Power
import Mathlib.Algebra.Order.Floor.Semifield
import Mathlib.Data.Int.Log
import Mathlib.Data.Rat.Floor
import Mathlib.Tactic.LinearCombination

/-! Rounding as a function of the exact value. The quotient of natural numbers that
the arithmetic works on does not matter, only the rational number it stands for. A
number in canonical form is the rounded form of its own value. -/

namespace DocTrace.Binary64

/-! ### Rounding to an integer -/

/-- The nearest natural number, a tie going to the even one. -/
def halfEven (q : ℚ) : ℕ :=
  if 1 < 2 * (q - ⌊q⌋₊) ∨ 2 * (q - ⌊q⌋₊) = 1 ∧ ⌊q⌋₊ % 2 = 1 then ⌊q⌋₊ + 1 else ⌊q⌋₊

theorem divNearest_eq_halfEven (num : ℕ) {den : ℕ} (hden : 0 < den) :
    divNearest num den = halfEven (num / den) := by
  have hpos : (0 : ℚ) < den := by exact_mod_cast hden
  have hfloor : ⌊(num : ℚ) / den⌋₊ = num / den := Nat.floor_div_eq_div num den
  have hrest : 2 * ((num : ℚ) / den - (num / den : ℕ)) = (2 * (num % den) : ℕ) / den := by
    have hsplit : (num : ℚ) = den * (num / den : ℕ) + (num % den : ℕ) := by
      exact_mod_cast (Nat.div_add_mod num den).symm
    field_simp
    push_cast
    linear_combination (2 : ℚ) * hsplit
  have habove : 1 < ((2 * (num % den) : ℕ) : ℚ) / den ↔ den < 2 * (num % den) := by
    rw [one_lt_div hpos]
    exact Nat.cast_lt
  have htie : ((2 * (num % den) : ℕ) : ℚ) / den = 1 ↔ 2 * (num % den) = den := by
    rw [div_eq_one_iff_eq hpos.ne']
    exact Nat.cast_inj
  simp only [divNearest, halfEven, hfloor, hrest, habove, htie, Bool.or_eq_true, Bool.and_eq_true,
    decide_eq_true_eq, gt_iff_lt]

theorem halfEven_natCast (n : ℕ) : halfEven n = n := by
  simp [halfEven]

theorem halfEven_bounds {q : ℚ} {low high : ℕ} (hlow : (low : ℚ) ≤ q) (hhigh : q < high) :
    low ≤ halfEven q ∧ halfEven q ≤ high := by
  have hq : 0 ≤ q := (Nat.cast_nonneg low).trans hlow
  have hfloor_low : low ≤ ⌊q⌋₊ := Nat.le_floor hlow
  have hfloor_high : ⌊q⌋₊ < high := (Nat.floor_lt hq).2 hhigh
  unfold halfEven
  split <;> omega

theorem halfEven_of_lt_half {q : ℚ} (hhalf : 2 * q < 1) : halfEven q = 0 := by
  have hfloor : ⌊q⌋₊ = 0 := Nat.floor_eq_zero.2 (by linarith)
  have hnot : ¬(1 < 2 * q ∨ 2 * q = 1 ∧ 0 % 2 = 1) := by
    rintro (h | ⟨-, h⟩)
    · linarith
    · simp at h
  simp only [halfEven, hfloor, Nat.cast_zero, sub_zero, if_neg hnot]

/-! ### The binary exponent -/

theorem scaled_spec (num : ℕ) {den : ℕ} (hden : 0 < den) (exponent : ℤ) :
    0 < (scaled num den exponent).2 ∧
      ((scaled num den exponent).1 : ℚ) / (scaled num den exponent).2 =
        num / den / 2 ^ exponent := by
  simp only [scaled, Nat.pow_eq]
  split
  · next h =>
    obtain ⟨n, rfl⟩ := Int.eq_ofNat_of_zero_le h
    refine ⟨by positivity, ?_⟩
    simp only [Int.toNat_natCast, Nat.cast_mul, Nat.cast_pow, Nat.cast_ofNat,
      zpow_natCast]
    rw [div_div]
  · next h =>
    obtain ⟨n, hn⟩ : ∃ n : ℕ, exponent = -n := ⟨(-exponent).toNat, by omega⟩
    subst hn
    refine ⟨hden, ?_⟩
    simp only [neg_neg, Int.toNat_natCast, Nat.cast_mul, Nat.cast_pow, Nat.cast_ofNat, zpow_neg,
      zpow_natCast]
    rw [div_inv_eq_mul, div_mul_eq_mul_div]

theorem log_eq_of_bounds {q : ℚ} {k : ℤ} (hlow : (2 : ℚ) ^ k ≤ q) (hhigh : q < 2 ^ (k + 1)) :
    Int.log 2 q = k := by
  have hq : 0 < q := (zpow_pos (by norm_num) k).trans_le hlow
  have hle : k ≤ Int.log 2 q := (Int.zpow_le_iff_le_log (by norm_num) hq).1 (by exact_mod_cast hlow)
  have hlt : Int.log 2 q < k + 1 :=
    (Int.lt_zpow_iff_log_lt (by norm_num) hq).1 (by exact_mod_cast hhigh)
  omega

theorem log2_bounds {n : ℕ} (hn : 0 < n) :
    (2 : ℚ) ^ (n.log2 : ℤ) ≤ n ∧ (n : ℚ) < 2 ^ ((n.log2 : ℤ) + 1) := by
  have hlow : 2 ^ n.log2 ≤ n := Nat.log2_self_le hn.ne'
  have hhigh : n < 2 ^ (n.log2 + 1) := Nat.lt_log2_self
  constructor
  · rw [zpow_natCast]
    exact_mod_cast hlow
  · rw [← Nat.cast_succ, zpow_natCast]
    exact_mod_cast hhigh

theorem magnitude_eq_log {num den : ℕ} (hnum : 0 < num) (hden : 0 < den) :
    magnitude num den = Int.log 2 (num / den : ℚ) := by
  have hpos : (0 : ℚ) < den := by exact_mod_cast hden
  obtain ⟨hnum_low, hnum_high⟩ := log2_bounds hnum
  obtain ⟨hden_low, hden_high⟩ := log2_bounds hden
  -- The bit counts give the exponent or one more; comparing with the power of two decides.
  let guess : ℤ := (num.log2 : ℤ) - den.log2
  have hbelow : (num : ℚ) / den < 2 ^ (guess + 1) := by
    rw [div_lt_iff₀ hpos]
    calc (num : ℚ) < 2 ^ ((num.log2 : ℤ) + 1) := hnum_high
      _ = 2 ^ (guess + 1) * 2 ^ (den.log2 : ℤ) := by
        rw [← zpow_add₀ (by norm_num)]
        congr 1
        omega
      _ ≤ 2 ^ (guess + 1) * den := by gcongr
  have habove : (2 : ℚ) ^ (guess - 1) ≤ num / den := by
    rw [le_div_iff₀ hpos]
    calc (2 : ℚ) ^ (guess - 1) * den ≤ 2 ^ (guess - 1) * 2 ^ ((den.log2 : ℤ) + 1) := by gcongr
      _ = 2 ^ (num.log2 : ℤ) := by
        rw [← zpow_add₀ (by norm_num)]
        congr 1
        omega
      _ ≤ num := hnum_low
  obtain ⟨hscaled, hvalue⟩ := scaled_spec num hden guess
  have hcompare : (scaled num den guess).2 ≤ (scaled num den guess).1 ↔
      (2 : ℚ) ^ guess ≤ num / den := by
    rw [← one_le_div₀ (zpow_pos (by norm_num) guess), ← hvalue,
      one_le_div₀ (by exact_mod_cast hscaled)]
    exact Nat.cast_le.symm
  change (if (scaled num den guess).2 ≤ (scaled num den guess).1 then guess else guess - 1) = _
  split
  · next h => exact (log_eq_of_bounds (hcompare.1 h) hbelow).symm
  · next h =>
    refine (log_eq_of_bounds habove ?_).symm
    rw [sub_add_cancel]
    exact not_le.1 fun hle => h (hcompare.2 hle)

/-! ### Rounding a rational number -/

/-- The number with a significand of at most 2^53. -/
def pack (negative : Bool) (significand : ℕ) (exponent : ℤ) : Binary64 :=
  if significand = 2 ^ 53 then
    if exponent + 1 > maxExponent then .infinite negative
    else .finite negative (2 ^ 52) (exponent + 1)
  else if exponent > maxExponent then .infinite negative
  else .finite negative significand exponent

/-- The nearest floating-point number, with the sign given. -/
def nearest (negative : Bool) (q : ℚ) : Binary64 :=
  if q = 0 then zero negative
  else
    let exponent := max (Int.log 2 q - 52) minExponent
    pack negative (halfEven (q / 2 ^ exponent)) exponent

theorem round_eq_nearest (negative : Bool) (num : ℕ) {den : ℕ} (hden : 0 < den) :
    round negative num den = nearest negative (num / den) := by
  rcases Nat.eq_zero_or_pos num with rfl | hnum
  · simp [round, nearest]
  · have hpos : (0 : ℚ) < den := by exact_mod_cast hden
    have hne : (num : ℚ) / den ≠ 0 := by positivity
    obtain ⟨hscaled, hvalue⟩ :=
      scaled_spec num hden (max (Int.log 2 (num / den : ℚ) - 52) minExponent)
    simp only [round, nearest, pack, Nat.pow_eq, if_neg hnum.ne', if_neg hne,
      magnitude_eq_log hnum hden, divNearest_eq_halfEven _ hscaled, hvalue]
    split <;> rfl

/-- The significand and the exponent of a finite number in its only form: no bit is lost at the
top, and only the least exponent has small significands. -/
structure Canonical (significand : ℕ) (exponent : ℤ) : Prop where
  low : minExponent ≤ exponent
  high : exponent ≤ maxExponent
  small : significand < 2 ^ 53
  normal : 2 ^ 52 ≤ significand ∨ exponent = minExponent

def IsCanonical : Binary64 → Prop
  | .finite _ significand exponent => Canonical significand exponent
  | _ => True

theorem isCanonical_zero (negative : Bool) : IsCanonical (zero negative) :=
  ⟨le_refl _, by decide, by decide, .inr rfl⟩

theorem nearest_of_canonical {significand : ℕ} {exponent : ℤ} (h : Canonical significand exponent)
    (negative : Bool) :
    nearest negative (significand * 2 ^ exponent) = .finite negative significand exponent := by
  have hpow : (0 : ℚ) < 2 ^ exponent := zpow_pos (by norm_num) exponent
  rcases Nat.eq_zero_or_pos significand with rfl | hpos
  · have hexponent : exponent = minExponent := by simpa using h.normal
    simp [nearest, zero, hexponent]
  · have hne : (significand : ℚ) * 2 ^ exponent ≠ 0 := by positivity
    obtain ⟨hlow, hhigh⟩ := log2_bounds hpos
    have hlog : Int.log 2 ((significand : ℚ) * 2 ^ exponent) = significand.log2 + exponent := by
      refine log_eq_of_bounds ?_ ?_
      · rw [zpow_add₀ (by norm_num)]
        gcongr
      · rw [add_right_comm, zpow_add₀ (by norm_num)]
        gcongr
    have hsmall : significand.log2 < 53 := (Nat.log2_lt hpos.ne').2 h.small
    have hexponent : max ((significand.log2 : ℤ) + exponent - 52) minExponent = exponent := by
      rcases h.normal with hnormal | hleast
      · have hlarge : 52 ≤ significand.log2 := (Nat.le_log2 hpos.ne').2 hnormal
        have hlow := h.low
        omega
      · omega
    have hsignificand :
        halfEven ((significand : ℚ) * 2 ^ exponent / 2 ^ exponent) = significand := by
      rw [mul_div_cancel_right₀ _ hpow.ne', halfEven_natCast]
    have hhigh := not_lt.2 h.high
    simp only [nearest, pack, if_neg hne, hlog, hexponent, hsignificand, if_neg h.small.ne,
      gt_iff_lt, if_neg hhigh]

theorem le_div_zpow_iff {q : ℚ} (hq : 0 < q) (exponent k : ℤ) :
    2 ^ k ≤ q / 2 ^ exponent ↔ k + exponent ≤ Int.log 2 q := by
  rw [le_div_iff₀ (zpow_pos (by norm_num) exponent), ← zpow_add₀ (by norm_num),
    ← Int.zpow_le_iff_le_log (by norm_num) hq, Nat.cast_ofNat]

theorem div_zpow_lt_iff {q : ℚ} (hq : 0 < q) (exponent k : ℤ) :
    q / 2 ^ exponent < 2 ^ k ↔ Int.log 2 q < k + exponent := by
  rw [← not_le, le_div_zpow_iff hq, not_le]

theorem isCanonical_nearest {q : ℚ} (hq : 0 ≤ q) (negative : Bool) :
    IsCanonical (nearest negative q) := by
  rcases hq.eq_or_lt with rfl | hq
  · simpa [nearest] using isCanonical_zero negative
  · have hexponent : minExponent ≤ max (Int.log 2 q - 52) minExponent := le_max_right ..
    have hbelow : q / 2 ^ max (Int.log 2 q - 52) minExponent < (2 ^ 53 : ℕ) := by
      exact_mod_cast (div_zpow_lt_iff hq _ 53).2 (by omega)
    have hsmall := (halfEven_bounds (le_trans Nat.cast_zero.le (by positivity)) hbelow).2
    -- The quotient has 53 bits before the point, or fewer where the exponent cannot be lower.
    have hnormal : 2 ^ 52 ≤ halfEven (q / 2 ^ max (Int.log 2 q - 52) minExponent) ∨
        max (Int.log 2 q - 52) minExponent = minExponent := by
      rcases le_or_gt minExponent (Int.log 2 q - 52) with hle | hlt
      · have habove : ((2 ^ 52 : ℕ) : ℚ) ≤ q / 2 ^ max (Int.log 2 q - 52) minExponent := by
          exact_mod_cast (le_div_zpow_iff hq _ 52).2 (by omega)
        exact .inl (halfEven_bounds habove hbelow).1
      · exact .inr (max_eq_right hlt.le)
    rw [nearest, if_neg hq.ne']
    dsimp only
    generalize max (Int.log 2 q - 52) minExponent = exponent at hexponent hsmall hnormal
    generalize halfEven (q / 2 ^ exponent) = significand at hsmall hnormal
    unfold pack
    split
    · split
      · trivial
      · exact ⟨by omega, by omega, by norm_num, .inl le_rfl⟩
    · split
      · trivial
      · exact ⟨hexponent, by omega, by omega, hnormal⟩

theorem nearest_of_large {q : ℚ} (hlarge : 2 ^ (1024 : ℤ) ≤ q) (negative : Bool) :
    nearest negative q = .infinite negative := by
  have hq : 0 < q := (zpow_pos (by norm_num) 1024).trans_le hlarge
  have hlog : 1024 ≤ Int.log 2 q :=
    (Int.zpow_le_iff_le_log (by norm_num) hq).1 (by exact_mod_cast hlarge)
  have hover : max (Int.log 2 q - 52) minExponent > maxExponent :=
    lt_of_lt_of_le (by simp only [maxExponent]; omega) (le_max_left ..)
  rw [nearest, if_neg hq.ne']
  dsimp only [pack]
  rw [if_pos hover, if_pos (by omega : _ + 1 > maxExponent), ite_self]

theorem nearest_of_small {q : ℚ} (hq : 0 ≤ q) (hsmall : q < 2 ^ (-1076 : ℤ)) (negative : Bool) :
    nearest negative q = zero negative := by
  rcases hq.eq_or_lt with rfl | hq
  · simp [nearest]
  · have hlog : Int.log 2 q < -1076 :=
      (Int.lt_zpow_iff_log_lt (by norm_num) hq).1 (by exact_mod_cast hsmall)
    have hexponent : max (Int.log 2 q - 52) minExponent = minExponent :=
      max_eq_right (by simp only [minExponent]; omega)
    have hhalf : 2 * (q / 2 ^ minExponent) < 1 := by
      have hquarter := (div_zpow_lt_iff hq minExponent (-2)).2 (by simp only [minExponent]; omega)
      norm_num at hquarter
      linarith
    simp only [nearest, if_neg hq.ne', hexponent, halfEven_of_lt_half hhalf]
    rfl

/-! ### Decimals -/

theorem two_pow_le_ten_pow : (2 : ℚ) ^ (1024 : ℤ) ≤ 10 ^ (311 : ℤ) := by
  have h : 2 ^ 1024 ≤ 10 ^ 311 := by decide +kernel
  exact_mod_cast h

theorem ten_pow_neg_lt_two_pow_neg : (10 : ℚ) ^ (-400 : ℤ) < 2 ^ (-1076 : ℤ) := by
  have h : 2 ^ 1076 < 10 ^ 400 := by decide +kernel
  rw [zpow_neg, zpow_neg]
  exact inv_strictAnti₀ (by positivity) (by exact_mod_cast h)

theorem ofDecimal_eq_nearest (negative : Bool) (digits : ℕ) (exponent : ℤ) :
    ofDecimal negative digits exponent = nearest negative (digits * 10 ^ exponent) := by
  rcases Nat.eq_zero_or_pos digits with rfl | hpos
  · simp [ofDecimal, nearest]
  · have hdigits : (1 : ℚ) ≤ digits := by exact_mod_cast hpos
    unfold ofDecimal
    rw [if_neg hpos.ne']
    split
    · next hover =>
      refine (nearest_of_large ?_ negative).symm
      calc (2 : ℚ) ^ (1024 : ℤ) ≤ 10 ^ (311 : ℤ) := two_pow_le_ten_pow
        _ ≤ 10 ^ exponent := zpow_le_zpow_right₀ (by norm_num) (by omega)
        _ ≤ digits * 10 ^ exponent := le_mul_of_one_le_left (by positivity) hdigits
    · split
      · next hunder =>
        refine (nearest_of_small (by positivity) ?_ negative).symm
        calc (digits : ℚ) * 10 ^ exponent
            < 2 ^ ((digits.log2 : ℤ) + 1) * 10 ^ exponent := by
              gcongr
              exact (log2_bounds hpos).2
          _ ≤ 10 ^ ((digits.log2 : ℤ) + 1) * 10 ^ exponent := by
              gcongr
              exact zpow_le_zpow_left₀ (by omega) (by norm_num) (by norm_num)
          _ = 10 ^ ((digits.log2 : ℤ) + 1 + exponent) := (zpow_add₀ (by norm_num) _ _).symm
          _ ≤ 10 ^ (-400 : ℤ) := zpow_le_zpow_right₀ (by norm_num) (by omega)
          _ < 2 ^ (-1076 : ℤ) := ten_pow_neg_lt_two_pow_neg
      · split
        · next hwhole =>
          obtain ⟨n, rfl⟩ := Int.eq_ofNat_of_zero_le hwhole
          rw [round_eq_nearest _ _ one_pos]
          simp
        · next hpart =>
          obtain ⟨n, rfl⟩ : ∃ n : ℕ, exponent = -n := ⟨(-exponent).toNat, by omega⟩
          rw [Nat.pow_eq, round_eq_nearest _ _ (by positivity)]
          simp [div_eq_mul_inv]

theorem isCanonical_ofDecimal (negative : Bool) (digits : ℕ) (exponent : ℤ) :
    IsCanonical (ofDecimal negative digits exponent) := by
  rw [ofDecimal_eq_nearest]
  exact isCanonical_nearest (by positivity) negative

end DocTrace.Binary64
