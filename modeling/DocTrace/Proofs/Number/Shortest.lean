import DocTrace.Number.Shortest
import DocTrace.Proofs.Number.Rounding

/-! The decimals that stand for a number read back as that number. Each candidate on
a grid is tried before it is taken, and where none is found, all digits of the number
are taken, which give its exact value. -/

namespace DocTrace

namespace Binary64

theorem nearest_zero (negative : Bool) : nearest negative 0 = zero negative := by
  simp [nearest]

/-- The sign takes no part in rounding. -/
theorem nearest_eq_finite_iff {negative : Bool} {q : ℚ} {significand : ℕ} {exponent : ℤ} :
    nearest negative q = .finite negative significand exponent ↔
      nearest false q = .finite false significand exponent := by
  unfold nearest
  split
  · simp [zero]
  · dsimp only [pack]
    split
    · split <;> simp
    · split <;> simp

end Binary64

namespace Decimal

open Binary64

def value (d : Decimal) : ℚ := d.digits * 10 ^ d.exponent

theorem value_dropZeros (limit : ℕ) (d : Decimal) : (d.dropZeros limit).value = d.value := by
  induction limit generalizing d with
  | zero => rfl
  | succ limit ih =>
    unfold dropZeros
    split
    · next h =>
      obtain ⟨-, hten⟩ : d.digits ≠ 0 ∧ d.digits % 10 = 0 := by simpa using h
      obtain ⟨n, hn⟩ := Nat.dvd_of_mod_eq_zero hten
      rw [ih]
      simp only [value, hn, Nat.mul_div_cancel_left _ (by norm_num : 0 < 10), Nat.cast_mul,
        Nat.cast_ofNat]
      rw [zpow_add_one₀ (by norm_num)]
      ring
    · rfl

variable {significand : ℕ} {exponent : ℤ}

theorem readsBack_iff {d : Decimal} :
    readsBack significand exponent d = true ↔
      nearest false d.value = .finite false significand exponent := by
  rw [readsBack, decide_eq_true_eq, ofDecimal_eq_nearest]
  rfl

theorem readsBack_of_onGrid? {grid : ℤ} {d : Decimal}
    (h : onGrid? significand exponent grid = some d) : readsBack significand exponent d = true := by
  unfold onGrid? at h
  dsimp only at h
  split at h
  · next hlower hupper =>
    simp only [Option.some.injEq] at h
    subst h
    split
    · exact hlower
    · exact hupper
  · next hlower _ =>
    simp only [Option.some.injEq] at h
    exact h ▸ hlower
  · next _ hupper =>
    simp only [Option.some.injEq] at h
    exact h ▸ hupper
  · simp at h

theorem value_exact (significand : ℕ) (exponent : ℤ) :
    (exact significand exponent).value = significand * 2 ^ exponent := by
  simp only [exact, Nat.pow_eq]
  split
  · next h =>
    obtain ⟨n, rfl⟩ := Int.eq_ofNat_of_zero_le h
    simp [value]
  · next h =>
    obtain ⟨n, rfl⟩ : ∃ n : ℕ, exponent = -n := ⟨(-exponent).toNat, by omega⟩
    have hten : (10 : ℚ) ^ n = 2 ^ n * 5 ^ n := by rw [← mul_pow]; norm_num
    simp only [value, neg_neg, Int.toNat_natCast, Nat.cast_mul, Nat.cast_pow, Nat.cast_ofNat,
      zpow_neg, zpow_natCast, hten]
    field_simp

theorem readsBack_shortestFrom (h : Canonical significand exponent) (top : ℤ) (count fuel : ℕ) :
    readsBack significand exponent (shortestFrom significand exponent top count fuel) = true := by
  induction fuel generalizing count with
  | zero =>
    rw [shortestFrom, readsBack_iff, value_exact]
    exact nearest_of_canonical h false
  | succ fuel ih =>
    unfold shortestFrom
    split
    · next hgrid => exact readsBack_of_onGrid? hgrid
    · exact ih (count + 1)

theorem nearest_shortest (h : Canonical significand exponent) (hne : significand ≠ 0) :
    nearest false (shortest significand exponent).value = .finite false significand exponent := by
  rw [shortest, if_neg hne]
  dsimp only
  rw [value_dropZeros, ← readsBack_iff]
  exact readsBack_shortestFrom h _ _ _

theorem digits_shortest_ne_zero (h : Canonical significand exponent) (hne : significand ≠ 0) :
    (shortest significand exponent).digits ≠ 0 := by
  intro hzero
  have hnearest := nearest_shortest h hne
  rw [value, hzero, Nat.cast_zero, zero_mul, nearest_zero] at hnearest
  simp only [zero, Binary64.finite.injEq] at hnearest
  exact hne hnearest.2.1.symm

end Decimal

end DocTrace
