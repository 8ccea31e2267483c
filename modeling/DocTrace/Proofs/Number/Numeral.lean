import DocTrace.Number.Reading
import Mathlib.Algebra.Group.Nat.Defs
import Mathlib.Data.List.Basic

/-! Reading decimal digits. What is written with the ten digits of ASCII is read
back as the same number, and a number that is read is bounded by the count of its
digits. -/

namespace DocTrace.Number

open Text

/-! ### Single characters -/

theorem toNat_of_isDigit {c : Char} (h : c.isDigit = true) : 48 ≤ c.toNat ∧ c.toNat ≤ 57 := by
  simpa [Char.isDigit, Char.le_def, UInt32.le_iff_toNat_le] using h

theorem digitValue?_of_isDigit {c : Char} (h : c.isDigit = true) :
    digitValue? c = some (c.toNat - 48) := by
  have hc := toNat_of_isDigit h
  rw [digitValue?, digitZeros, List.find?_cons_of_pos (by simpa using hc)]
  rfl

theorem baseDigit?_of_isDigit {c : Char} (h : c.isDigit = true) :
    baseDigit? 10 c = some (c.toNat - 48) := by
  have hc := toNat_of_isDigit h
  have hlower : ¬(97 ≤ c.toNat ∧ c.toNat ≤ 122) := by omega
  have hupper : ¬(65 ≤ c.toNat ∧ c.toNat ≤ 90) := by omega
  have hsmall : c.toNat - 48 < 10 := by omega
  simp [baseDigit?, hlower, hupper, digitValue?_of_isDigit h, hsmall]

theorem ne_of_isDigit {c d : Char} (h : c.isDigit = true) (hd : d.isDigit = false) : c ≠ d := by
  rintro rfl
  simp [h] at hd

theorem toLower_of_isDigit {c : Char} (h : c.isDigit = true) : c.toLower = c := by
  have hc := toNat_of_isDigit h
  have hupper : ¬(c.val ≥ 'A'.val ∧ c.val ≤ 'Z'.val) := fun hu => by
    have hlow : 65 ≤ c.toNat := hu.1
    omega
  exact dif_neg hupper

theorem isBlank_eq_false {c : Char} (hlow : 33 ≤ c.toNat) (hhigh : c.toNat ≤ 126) :
    isBlank c = false := by
  simp only [isBlank, Bool.or_eq_false_iff, Bool.and_eq_false_iff, decide_eq_false_iff_not]
  omega

theorem isMargin_eq_false {c : Char} (hlow : 33 ≤ c.toNat) (hhigh : c.toNat ≤ 126) :
    isMargin c = false := by
  rw [isMargin, isBlank_eq_false hlow hhigh, Bool.false_and]

theorem isMargin_of_isDigit {c : Char} (h : c.isDigit = true) : isMargin c = false := by
  have hc := toNat_of_isDigit h
  exact isMargin_eq_false (by omega) (by omega)

theorem stripChars_eq_self {p : Char → Bool} {s : List Char} (h : ∀ c ∈ s, p c = false) :
    stripChars p s = s := by
  have hdrop (t : List Char) (ht : ∀ c ∈ t, p c = false) : t.dropWhile p = t := by
    cases t with
    | nil => rfl
    | cons c t => simp [ht c (List.mem_cons_self ..)]
  rw [stripChars, dropEndWhile, hdrop s h, hdrop _ (by simpa using h), List.reverse_reverse]

/-! ### Runs of digits -/

theorem digitsFrom_of_digits {s : List Char} (h : ∀ c ∈ s, c.isDigit = true) (value count : Nat) :
    digitsFrom 10 value count true s = some (Nat.ofDigitChars 10 s value, count + s.length) := by
  induction s generalizing value count with
  | nil => simp [digitsFrom]
  | cons c s ih =>
    have hc := h c (List.mem_cons_self ..)
    have hrest := ih (fun d hd => h d (List.mem_cons_of_mem _ hd))
    rw [digitsFrom, if_neg (ne_of_isDigit hc rfl), baseDigit?_of_isDigit hc]
    simp only [hrest, Nat.ofDigitChars_cons, List.length_cons]
    congr 2
    · rw [Nat.mul_comm]
      rfl
    · omega

theorem digitsFrom_start {s : List Char} (hne : s ≠ []) (h : ∀ c ∈ s, c.isDigit = true) :
    digitsFrom 10 0 0 false s = some (Nat.ofDigitChars 10 s 0, s.length) := by
  cases s with
  | nil => exact absurd rfl hne
  | cons c s =>
    have hc := h c (List.mem_cons_self ..)
    have hwhole := digitsFrom_of_digits h 0 0
    rw [digitsFrom, if_neg (ne_of_isDigit hc rfl), baseDigit?_of_isDigit hc] at hwhole ⊢
    simpa using hwhole

/-- No digit comes next. -/
def EndsDigits (s : List Char) : Prop := ∀ c ∈ s.head?, digitValue? c = none

theorem takeDigits_of_digits {s rest : List Char} (h : ∀ c ∈ s, c.isDigit = true)
    (hrest : EndsDigits rest) (value count : Nat) :
    takeDigits value count (s ++ rest) =
      (Nat.ofDigitChars 10 s value, count + s.length, rest) := by
  induction s generalizing value count with
  | nil =>
    cases rest with
    | nil => simp [takeDigits]
    | cons c rest =>
      have hc : digitValue? c = none := hrest c rfl
      simp [takeDigits, hc]
  | cons c s ih =>
    have hc := h c (List.mem_cons_self ..)
    rw [List.cons_append, takeDigits, digitValue?_of_isDigit hc]
    simp only [ih (fun d hd => h d (List.mem_cons_of_mem _ hd)), Nat.ofDigitChars_cons,
      List.length_cons]
    congr 2
    · rw [Nat.mul_comm]
      rfl
    · omega

theorem dropUnderscores_eq_self {s : List Char} (h : '_' ∉ s) (after : Bool) :
    dropUnderscores after s = some s := by
  induction s generalizing after with
  | nil => rfl
  | cons c s ih =>
    have hc : c ≠ '_' := fun hc => h (hc ▸ List.mem_cons_self ..)
    have hs : '_' ∉ s := fun hs => h (List.mem_cons_of_mem _ hs)
    simp [dropUnderscores, hc, ih hs]

/-! ### Integers -/

theorem sign_signed {c : Char} (hc : c.isDigit = true) (s : List Char) (negative : Bool) :
    sign ((if negative then ['-'] else []) ++ c :: s) = (negative, c :: s) := by
  cases negative with
  | true => rfl
  | false =>
    have hminus : c ≠ '-' := ne_of_isDigit hc rfl
    have hplus : c ≠ '+' := ne_of_isDigit hc rfl
    simp only [Bool.false_eq_true, if_false, List.nil_append]
    unfold sign
    split <;> simp_all

theorem isDigit_of_mem_toDigits {n : Nat} : ∀ c ∈ Nat.toDigits 10 n, c.isDigit = true :=
  fun _ => Nat.isDigit_of_mem_toDigits (by decide) (by decide)

theorem readInt_toDigits {n : Nat} (h : n < 10 ^ maxDigits) (negative : Bool) :
    readInt 10 ((if negative then ['-'] else []) ++ Nat.toDigits 10 n) =
      .ok (if negative then -(n : Int) else n) := by
  have hdigits := isDigit_of_mem_toDigits (n := n)
  have hmargin : ∀ c ∈ (if negative then ['-'] else []) ++ Nat.toDigits 10 n,
      isMargin c = false := by
    intro c hc
    rcases List.mem_append.1 hc with hc | hc
    · cases negative with
      | false => simp at hc
      | true =>
        rw [List.mem_singleton.1 hc]
        decide
    · exact isMargin_of_isDigit (hdigits c hc)
  have hsign : sign ((if negative then ['-'] else []) ++ Nat.toDigits 10 n) =
      (negative, Nat.toDigits 10 n) := by
    obtain ⟨c, s, hs⟩ := List.exists_cons_of_ne_nil (Nat.toDigits_ne_nil (n := n) (b := 10))
    rw [hs]
    exact sign_signed (hdigits c (by simp [hs])) s negative
  have hmark : dropBaseMark 10 (Nat.toDigits 10 n) = Nat.toDigits 10 n := by
    unfold dropBaseMark
    split <;> simp [baseMarks]
  have hlength : (Nat.toDigits 10 n).length ≤ maxDigits :=
    (Nat.length_toDigits_le_iff (by decide) (by decide)).2 h
  simp only [readInt, stripChars_eq_self hmargin, hsign, hmark,
    digitsFrom_start Nat.toDigits_ne_nil hdigits, Nat.ofDigitChars_ten_toDigits]
  simp [Nat.not_lt.2 hlength]

/-- The value of digits is less than the power of ten that their count gives. -/
theorem lt_pow_of_digitsFrom {s : List Char} {value count : Nat} {after : Bool} {v n : Nat}
    (h : digitsFrom 10 value count after s = some (v, n)) (hvalue : value < 10 ^ count) :
    v < 10 ^ n := by
  induction s generalizing value count after with
  | nil =>
    simp only [digitsFrom, Option.ite_none_right_eq_some, Option.some.injEq, Prod.mk.injEq] at h
    obtain ⟨-, rfl, rfl⟩ := h
    exact hvalue
  | cons c s ih =>
    rw [digitsFrom] at h
    split at h
    · simp only [Option.ite_none_right_eq_some] at h
      exact ih h.2 hvalue
    · split at h
      · next d hd =>
        have hsmall : d < 10 := by simpa using (Option.filter_eq_some_iff.1 hd).2
        refine ih h ?_
        rw [Nat.pow_succ]
        omega
      · simp at h

theorem natAbs_lt_of_readInt {s : List Char} {i : Int} (h : readInt 10 s = .ok i) :
    i.natAbs < 10 ^ maxDigits := by
  unfold readInt at h
  dsimp only at h
  split at h
  · simp at h
  · next value count hdigits =>
    have hvalue := lt_pow_of_digitsFrom hdigits (by decide)
    split at h
    · simp at h
    · next hcount =>
      have hle : count ≤ maxDigits := by simpa using hcount
      have habs : i.natAbs = value := by
        simp only [Except.ok.injEq] at h
        subst h
        split <;> simp
      rw [habs]
      exact Nat.lt_of_lt_of_le hvalue (Nat.pow_le_pow_right (by decide) hle)

end DocTrace.Number
