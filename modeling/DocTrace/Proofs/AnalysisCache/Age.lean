import DocTrace.AnalysisCache.Age
import DocTrace.Proofs.Number.Overflow
import DocTrace.Proofs.Value.Equality

/-! Age limits in milliseconds. A limit of whole days is multiplied exactly, whatever its size.
A fractional one is multiplied in double precision, so it can be counted only if it is finite
and the product stays below the end of the range. -/

namespace DocTrace

namespace Binary64

variable {x : Binary64} {negative : Bool} {q r : ℚ}

theorem nearest_cases (negative : Bool) (q : ℚ) :
    nearest negative q = .infinite negative ∨
      ∃ significand exponent, nearest negative q = .finite negative significand exponent := by
  unfold nearest
  split
  · exact .inr ⟨0, minExponent, rfl⟩
  · dsimp only [pack]
    split
    · split
      · exact .inl rfl
      · exact .inr ⟨_, _, rfl⟩
    · split
      · exact .inl rfl
      · exact .inr ⟨_, _, rfl⟩

theorem number?_zero (negative : Bool) : (zero negative).number? = some (.inl 0) := by
  simp [number?, zero, signed]

/-- What is dropped is the fraction, so a number that is not negative is rounded down. -/
theorem truncate?_of_number? (h : x.number? = some (.inl r)) (hr : 0 ≤ r) :
    x.truncate? = some ⌊r⌋ := by
  cases x with
  | nan => simp [number?] at h
  | infinite => simp [number?] at h
  | finite negative significand exponent =>
    obtain ⟨hpos, hratio⟩ := ratio_spec significand exponent
    have hvalue : signed negative (significand * 2 ^ exponent) = r := by simpa [number?] using h
    have hden : ((ratio significand exponent).2 : ℚ) ≠ 0 := Nat.cast_ne_zero.2 hpos.ne'
    have hmagnitude : (0 : ℚ) ≤ significand * 2 ^ exponent := by positivity
    simp only [truncate?, ratio?, Option.map_some, Option.some.injEq]
    cases negative with
    | false =>
      have hquotient :
          r = ((ratio significand exponent).1 : ℚ) / (ratio significand exponent).2 := by
        rw [eq_div_iff hden, hratio, ← hvalue]
        rfl
      rw [hquotient, if_neg Bool.false_ne_true, ← Int.ofNat_tdiv, Rat.floor_natCast_div_natCast]
      rfl
    | true =>
      -- Of the numbers with a minus sign only zero is left.
      have hneg : r = -(significand * 2 ^ exponent) := hvalue.symm
      have hzero : r = 0 := by linarith
      have hnum : ((ratio significand exponent).1 : ℚ) = 0 := by
        have hproduct : (significand : ℚ) * 2 ^ exponent = 0 := by linarith
        rw [hratio, hproduct, zero_mul]
      have hnum : (ratio significand exponent).1 = 0 := by exact_mod_cast hnum
      simp [hnum, hzero]

/-- The number of a product of finite numbers is the nearest one to the exact product. -/
theorem mul_finite (a b : Bool) (m n : ℕ) (p e : ℤ) :
    (finite a m p).mul (finite b n e) = nearest (a != b) (m * 2 ^ p * (n * 2 ^ e)) := by
  obtain ⟨hleft, hm⟩ := ratio_spec m p
  obtain ⟨hright, hn⟩ := ratio_spec n e
  have hl : ((ratio m p).2 : ℚ) ≠ 0 := Nat.cast_ne_zero.2 hleft.ne'
  have hr : ((ratio n e).2 : ℚ) ≠ 0 := Nat.cast_ne_zero.2 hright.ne'
  simp only [mul]
  rw [round_eq_nearest _ _ (Nat.mul_pos hleft hright), Nat.cast_mul, Nat.cast_mul, hm, hn]
  congr 1
  field_simp

end Binary64

namespace AgeLimit

open Binary64

/-- Limits and the milliseconds that they amount to: exactly for whole days, and otherwise as the
double that is nearest to the product. -/
inductive Amounts : AgeLimit → ℚ → Prop
  | whole (days : ℤ) : Amounts (.whole days) (days * millisecondsPerDay)
  | fractional {days : Binary64} {q r : ℚ} (hdays : days.number? = some (.inl q))
    (hproduct : (nearest false (q * millisecondsPerDay)).number? = some (.inl r)) :
    Amounts (.fractional days) r

/-- Limits that can be counted in milliseconds. -/
def IsCountable : AgeLimit → Prop
  | .whole _ => True
  | .fractional days =>
    ∃ q, days.number? = some (.inl q) ∧ q * millisecondsPerDay < overflowBound

/-- Limits that are not below zero. Neither is the limit that is no number. -/
def IsAccepted : AgeLimit → Prop
  | .whole days => 0 ≤ days
  | .fractional days => days.isBelowZero = false

variable {limit : AgeLimit} {days : Binary64} {q r : ℚ}

theorem Amounts.exists_number? (h : (AgeLimit.fractional days).Amounts r) :
    ∃ q, days.number? = some (.inl q) := by
  cases h with
  | fractional hdays => exact ⟨_, hdays⟩

theorem amounts_fractional_iff (h : days.number? = some (.inl q)) :
    (fractional days).Amounts r ↔
      (nearest false (q * millisecondsPerDay)).number? = some (.inl r) := by
  constructor
  · intro hamounts
    cases hamounts with
    | @fractional _ p _ hdays hproduct =>
      obtain rfl : p = q := by simpa [h] using hdays.symm
      exact hproduct
  · exact fun hproduct => .fractional h hproduct

theorem nonneg_of_number? (h : days.number? = some (.inl q)) (hlimit : days.isBelowZero = false) :
    0 ≤ q := by
  cases days with
  | nan => simp [number?] at h
  | infinite => simp [number?] at h
  | finite negative significand exponent =>
    have hvalue : signed negative (significand * 2 ^ exponent) = q := by simpa [number?] using h
    rw [← hvalue]
    cases negative with
    | false => exact mul_nonneg significand.cast_nonneg (zpow_nonneg (by norm_num) exponent)
    | true =>
      have hzero : significand = 0 := by simpa [isBelowZero, isNegative, isZero] using hlimit
      simp [signed, hzero]

theorem amounts_nonneg (h : limit.Amounts r) (hlimit : limit.IsAccepted) : 0 ≤ r := by
  cases h with
  | whole days =>
    have hdays : (0 : ℚ) ≤ days := by exact_mod_cast hlimit
    exact mul_nonneg hdays (by norm_num [millisecondsPerDay])
  | @fractional days q _ _ hproduct =>
    rcases nearest_cases false (q * millisecondsPerDay) with h | ⟨significand, exponent, h⟩
    · rw [h] at hproduct
      simp [number?] at hproduct
    · rw [h] at hproduct
      have hvalue : (significand : ℚ) * 2 ^ exponent = r := by
        simpa [number?, signed] using hproduct
      rw [← hvalue]
      positivity

theorem ofInt_millisecondsPerDay :
    Binary64.ofInt millisecondsPerDay = .finite false (84375 * 2 ^ 36) (-26) := by decide +kernel

/-- The product in double precision, for a limit that is not below zero. The sign of zero does
not matter for its number. -/
theorem number?_product (h : days.number? = some (.inl q)) (hlimit : days.isBelowZero = false) :
    (days.mul (.ofInt millisecondsPerDay)).number? =
      (nearest false (q * millisecondsPerDay)).number? := by
  cases days with
  | nan => simp [number?] at h
  | infinite => simp [number?] at h
  | finite negative significand exponent =>
    have hvalue : signed negative (significand * 2 ^ exponent) = q := by simpa [number?] using h
    have hmilliseconds : ((84375 * 2 ^ 36 : ℕ) : ℚ) * 2 ^ (-26 : ℤ) = millisecondsPerDay := by
      norm_num [millisecondsPerDay]
    rw [ofInt_millisecondsPerDay, mul_finite, hmilliseconds, ← hvalue]
    cases negative with
    | false => rfl
    | true =>
      have hzero : significand = 0 := by simpa [isBelowZero, isNegative, isZero] using hlimit
      simp [hzero, signed, nearest, number?_zero]

theorem exists_amounts_iff (hlimit : limit.IsAccepted) :
    (∃ r, limit.Amounts r) ↔ limit.IsCountable := by
  cases limit with
  | whole days => exact iff_of_true ⟨_, .whole days⟩ trivial
  | fractional days =>
    have hmilliseconds : (0 : ℚ) ≤ millisecondsPerDay := by norm_num [millisecondsPerDay]
    constructor
    · rintro ⟨r, hr⟩
      cases hr with
      | @fractional _ q _ hdays hproduct =>
        have hq := mul_nonneg (nonneg_of_number? hdays hlimit) hmilliseconds
        refine ⟨q, hdays, (isFinite_nearest_iff hq false).1 ?_⟩
        rcases nearest_cases false (q * millisecondsPerDay) with h | ⟨significand, exponent, h⟩
        · rw [h] at hproduct
          simp [number?] at hproduct
        · exact ⟨_, _, _, h⟩
    · rintro ⟨q, hdays, hbound⟩
      have hq := mul_nonneg (nonneg_of_number? hdays hlimit) hmilliseconds
      obtain ⟨negative, significand, exponent, h⟩ := (isFinite_nearest_iff hq false).2 hbound
      exact ⟨_, .fractional hdays (by rw [h]; rfl)⟩

/-- A finite limit fails only where the product is out of range. -/
theorem milliseconds_of_finite (h : days.number? = some (.inl q))
    (hlimit : days.isBelowZero = false) :
    (fractional days).milliseconds =
      match (nearest false (q * millisecondsPerDay)).number? with
      | some (.inl r) => .ok ⌊r⌋
      | _ => .error .infinite := by
  have hnumber := number?_product h hlimit
  rw [milliseconds, ← hnumber]
  cases hproduct : days.mul (.ofInt millisecondsPerDay) with
  | nan =>
    rw [hproduct] at hnumber
    rcases nearest_cases false (q * millisecondsPerDay) with h | ⟨significand, exponent, h⟩
    · simp [h, number?] at hnumber
    · simp [h, number?] at hnumber
  | infinite => rfl
  | finite negative significand exponent =>
    rw [hproduct] at hnumber
    have hvalue : (finite negative significand exponent).number? =
      some (.inl (signed negative (significand * 2 ^ exponent))) := rfl
    have hnonneg := amounts_nonneg (.fractional h (hnumber.symm.trans hvalue)) hlimit
    have htruncate := truncate?_of_number? hvalue hnonneg
    dsimp only
    rw [htruncate, hvalue]

theorem milliseconds_nan : (fractional .nan).milliseconds = .error .notANumber := rfl

theorem milliseconds_infinite (negative : Bool) :
    (fractional (.infinite negative)).milliseconds = .error .infinite := by
  rw [milliseconds, ofInt_millisecondsPerDay]
  rfl

theorem milliseconds_eq_ok_iff (hlimit : limit.IsAccepted) {age : ℤ} :
    limit.milliseconds = .ok age ↔ ∃ r, limit.Amounts r ∧ age = ⌊r⌋ := by
  cases limit with
  | whole days =>
    have hfloor : ⌊(days * millisecondsPerDay : ℚ)⌋ = days * millisecondsPerDay := by
      rw [← Int.cast_mul, Int.floor_intCast]
    constructor
    · intro h
      exact ⟨_, .whole days, hfloor ▸ (Except.ok.inj h).symm⟩
    · rintro ⟨_, ⟨⟩, rfl⟩
      rw [hfloor]
      rfl
  | fractional days =>
    cases days with
    | nan =>
      refine iff_of_false (by simp [milliseconds_nan]) ?_
      rintro ⟨r, hr, -⟩
      obtain ⟨q, hq⟩ := hr.exists_number?
      simp [number?] at hq
    | infinite negative =>
      refine iff_of_false (by simp [milliseconds_infinite]) ?_
      rintro ⟨r, hr, -⟩
      obtain ⟨q, hq⟩ := hr.exists_number?
      simp [number?] at hq
    | finite negative significand exponent =>
      have hdays : (finite negative significand exponent).number? =
        some (.inl (signed negative (significand * 2 ^ exponent))) := rfl
      rw [milliseconds_of_finite hdays hlimit]
      simp only [amounts_fractional_iff hdays]
      split
      · next r hproduct => simp [hproduct, eq_comm]
      · next hproduct =>
        refine iff_of_false (by simp) ?_
        rintro ⟨r, hr, -⟩
        exact hproduct r hr

/-- Of the limits that cannot be counted one is no number, and the others are too great. -/
theorem milliseconds_eq_notANumber_iff (hlimit : limit.IsAccepted) :
    limit.milliseconds = .error .notANumber ↔ limit = .fractional .nan := by
  cases limit with
  | whole days => simp [milliseconds]
  | fractional days =>
    cases days with
    | nan => simp [milliseconds_nan]
    | infinite negative => simp [milliseconds_infinite]
    | finite negative significand exponent =>
      have hdays : (finite negative significand exponent).number? =
        some (.inl (signed negative (significand * 2 ^ exponent))) := rfl
      rw [milliseconds_of_finite hdays hlimit]
      refine iff_of_false ?_ (by simp)
      split
      · simp
      · simp

end AgeLimit

end DocTrace
