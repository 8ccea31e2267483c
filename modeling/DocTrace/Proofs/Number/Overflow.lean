import DocTrace.Proofs.Number.Rounding

/-! The end of the range. The greatest double has 53 bits before the power 2^971, and what is
half a step or more above it has no nearest double: half a step above an odd significand is a
tie, and a tie goes to the even neighbour, which is out of range. -/

namespace DocTrace.Binary64

/-- The least number that is rounded to infinity. -/
def overflowBound : ℚ := 2 ^ 1024 - 2 ^ 970

def IsFinite (x : Binary64) : Prop := ∃ negative significand exponent,
  x = .finite negative significand exponent

theorem isFinite_pack_iff {negative : Bool} {significand : ℕ} {exponent : ℤ} :
    (pack negative significand exponent).IsFinite ↔
      exponent < maxExponent ∨ exponent = maxExponent ∧ significand ≠ 2 ^ 53 := by
  have hfinite (m : ℕ) (e : ℤ) : (finite negative m e).IsFinite := ⟨negative, m, e, rfl⟩
  have hinfinite : ¬(infinite negative).IsFinite := by
    rintro ⟨_, _, _, h⟩
    contradiction
  unfold pack
  split
  · split
    · exact iff_of_false hinfinite (by omega)
    · exact iff_of_true (hfinite _ _) (by omega)
  · split
    · exact iff_of_false hinfinite (by omega)
    · exact iff_of_true (hfinite _ _) (by omega)

/-- Above an odd number the half is rounded up. -/
theorem halfEven_eq_succ_iff {q : ℚ} {n : ℕ} (hodd : n % 2 = 1) (hlow : (n : ℚ) ≤ q)
    (hhigh : q < n + 1) : halfEven q = n + 1 ↔ (n : ℚ) + 1 / 2 ≤ q := by
  have hfloor : ⌊q⌋₊ = n := (Nat.floor_eq_iff (n.cast_nonneg.trans hlow)).2 ⟨hlow, hhigh⟩
  have hround : (1 < 2 * (q - n) ∨ 2 * (q - n) = 1 ∧ n % 2 = 1) ↔ (n : ℚ) + 1 / 2 ≤ q := by
    simp only [hodd, and_true]
    constructor
    · rintro (h | h)
      · linarith
      · linarith
    · intro h
      rcases h.eq_or_lt with h | h
      · exact .inr (by linarith)
      · exact .inl (by linarith)
  rw [← hround, halfEven, hfloor]
  split
  · next h => exact iff_of_true rfl h
  · next h => exact iff_of_false (by omega) h

/-- The significand reaches 2^53 only from the last half step on. -/
theorem halfEven_eq_top_iff {q : ℚ} (hq : 0 ≤ q) (hhigh : q < 2 ^ 53) :
    halfEven q = 2 ^ 53 ↔ 2 ^ 53 - 1 / 2 ≤ q := by
  have hcast : ((2 ^ 53 - 1 : ℕ) : ℚ) = 2 ^ 53 - 1 := by norm_num
  rcases lt_or_ge q (2 ^ 53 - 1 : ℕ) with hbelow | habove
  · have hle := (halfEven_bounds (Nat.cast_zero.trans_le hq) hbelow).2
    refine iff_of_false (by omega) fun h => ?_
    rw [hcast] at hbelow
    linarith
  · have hend : q < (2 ^ 53 - 1 : ℕ) + 1 := by
      rw [hcast]
      linarith
    have hhalf := halfEven_eq_succ_iff (by norm_num) habove hend
    rw [hcast] at hhalf
    rw [show 2 ^ 53 = (2 ^ 53 - 1 : ℕ) + 1 from rfl, hhalf]
    constructor
    · intro h
      linarith
    · intro h
      linarith

theorem overflowBound_eq : overflowBound = (2 ^ 53 - 1 / 2) * 2 ^ maxExponent := by
  have hpower : (2 : ℚ) ^ maxExponent = 2 ^ 971 := zpow_natCast 2 971
  have htop : (2 : ℚ) ^ 1024 = 2 ^ 53 * 2 ^ 971 := pow_add 2 53 971
  have hhalf : (2 : ℚ) ^ 971 = 2 * 2 ^ 970 := pow_succ' 2 970
  rw [overflowBound, hpower, htop, hhalf]
  generalize (2 : ℚ) ^ 970 = step
  ring

theorem isFinite_nearest_iff {q : ℚ} (hq : 0 ≤ q) (negative : Bool) :
    (nearest negative q).IsFinite ↔ q < overflowBound := by
  have hstep : (0 : ℚ) < 2 ^ maxExponent := zpow_pos (by norm_num) maxExponent
  rw [overflowBound_eq]
  rcases hq.eq_or_lt with rfl | hq
  · have hzero : (nearest negative 0).IsFinite :=
      ⟨negative, 0, minExponent, by simp [nearest, zero]⟩
    exact iff_of_true hzero (mul_pos (by norm_num) hstep)
  · rw [nearest, if_neg hq.ne']
    dsimp only
    have hlow : minExponent < maxExponent := by decide
    rw [isFinite_pack_iff]
    rcases lt_trichotomy (Int.log 2 q) 1023 with hlog | hlog | hlog
    · -- Below the last power of two there is always a double.
      have hlt : q / 2 ^ maxExponent < 2 ^ (52 : ℤ) :=
        (div_zpow_lt_iff hq maxExponent 52).2 (by simp only [maxExponent]; omega)
      rw [div_lt_iff₀ hstep] at hlt
      refine iff_of_true (.inl ?_) (hlt.trans ?_)
      · simp only [maxExponent, minExponent] at hlow ⊢
        omega
      · gcongr
        norm_num
    · have hexponent : max (Int.log 2 q - 52) minExponent = maxExponent := by
        rw [hlog]
        rfl
      have hlt : q / 2 ^ maxExponent < 2 ^ 53 := by
        exact_mod_cast (div_zpow_lt_iff hq maxExponent 53).2 (by simp only [maxExponent]; omega)
      have htop := halfEven_eq_top_iff (by positivity) hlt
      rw [hexponent, ← div_lt_iff₀ hstep, ← not_le (a := 2 ^ 53 - 1 / 2), ← htop]
      simp
    · have hgreat : 2 ^ (53 : ℤ) ≤ q / 2 ^ maxExponent :=
        (le_div_zpow_iff hq maxExponent 53).2 (by simp only [maxExponent]; omega)
      rw [le_div_iff₀ hstep] at hgreat
      refine iff_of_false ?_ (not_lt.2 (le_trans ?_ hgreat))
      · simp only [maxExponent, minExponent]
        omega
      · gcongr
        norm_num

end DocTrace.Binary64
