import DocTrace.Proofs.Number.Numeral
import DocTrace.Proofs.Number.Shortest

/-! Written numbers and what is read out of them. A written number has digits, and may
have more digits after a point and an exponent; a reader finds the nearest number to
the decimal that it shows. Every layout of a finite number is a written number that
shows the decimal of the number. -/

namespace DocTrace.Number

open Text

/-- A number as it is written, without its sign. -/
structure Written where
  whole : List Char
  fraction : List Char := []
  /-- Whether the exponent is negative, and its digits. -/
  power : Option (Bool × List Char) := none
  whole_digits : ∀ c ∈ whole, c.isDigit = true
  fraction_digits : ∀ c ∈ fraction, c.isDigit = true
  power_digits : ∀ p ∈ power, p.2 ≠ [] ∧ ∀ c ∈ p.2, c.isDigit = true
  /-- There is a digit, and a zero stands first only alone. -/
  whole_start : whole = ['0'] ∨ ∃ c s, whole = c :: s ∧ c ≠ '0'

namespace Written

def fractionChars (w : Written) : List Char := if w.fraction = [] then [] else '.' :: w.fraction

def powerChars (w : Written) : List Char :=
  match w.power with
  | none => []
  | some (negative, digits) => 'e' :: (if negative then '-' else '+') :: digits

def chars (w : Written) : List Char := w.whole ++ (w.fractionChars ++ w.powerChars)

def signed (w : Written) (negative : Bool) : List Char :=
  (if negative then ['-'] else []) ++ w.chars

def powerValue (w : Written) : ℤ :=
  match w.power with
  | none => 0
  | some (negative, digits) =>
    if negative then -(Nat.ofDigitChars 10 digits 0 : ℤ) else Nat.ofDigitChars 10 digits 0

/-- The decimal that is shown. -/
def decimal (w : Written) : Decimal :=
  ⟨Nat.ofDigitChars 10 (w.whole ++ w.fraction) 0, w.powerValue - w.fraction.length⟩

variable (w : Written)

theorem whole_ne_nil : w.whole ≠ [] := by
  rcases w.whole_start with h | ⟨c, s, h, -⟩ <;> simp [h]

theorem chars_cons : ∃ c s, w.chars = c :: s ∧ c.isDigit = true := by
  obtain ⟨c, s, hs⟩ := List.exists_cons_of_ne_nil w.whole_ne_nil
  exact ⟨c, s ++ (w.fractionChars ++ w.powerChars), by simp [chars, hs],
    w.whole_digits c (by simp [hs])⟩

/-- The characters that a written number may have. -/
def IsNumberChar (c : Char) : Prop := c.isDigit = true ∨ c = '.' ∨ c = 'e' ∨ c = '-' ∨ c = '+'

theorem isNumberChar_of_mem {negative : Bool} {c : Char} (hc : c ∈ w.signed negative) :
    IsNumberChar c := by
  simp only [signed, chars, List.mem_append] at hc
  rcases hc with hc | hc | hc | hc
  · cases negative with
    | false => simp at hc
    | true => simp_all [IsNumberChar]
  · exact .inl (w.whole_digits c hc)
  · unfold fractionChars at hc
    split at hc
    · simp at hc
    · rcases List.mem_cons.1 hc with rfl | hc
      · exact .inr (.inl rfl)
      · exact .inl (w.fraction_digits c hc)
  · unfold powerChars at hc
    split at hc
    · simp at hc
    · next negative digits hpower =>
      rcases List.mem_cons.1 hc with rfl | hc
      · exact .inr (.inr (.inl rfl))
      · rcases List.mem_cons.1 hc with rfl | hc
        · cases negative <;> simp [IsNumberChar]
        · exact .inl ((w.power_digits _ hpower).2 c hc)

theorem IsNumberChar.range {c : Char} (h : IsNumberChar c) : 33 ≤ c.toNat ∧ c.toNat ≤ 126 := by
  rcases h with h | rfl | rfl | rfl | rfl
  · have := toNat_of_isDigit h
    omega
  all_goals decide

theorem IsNumberChar.ne_underscore {c : Char} (h : IsNumberChar c) : c ≠ '_' := by
  rcases h with h | rfl | rfl | rfl | rfl
  · exact ne_of_isDigit h rfl
  all_goals decide

theorem endsDigits_powerChars : EndsDigits w.powerChars := by
  intro c hc
  unfold powerChars at hc
  split at hc
  · simp at hc
  · obtain rfl : 'e' = c := by simpa using hc
    decide +kernel

theorem endsDigits_rest : EndsDigits (w.fractionChars ++ w.powerChars) := by
  unfold fractionChars
  split
  · exact w.endsDigits_powerChars
  · intro c hc
    obtain rfl : '.' = c := by simpa using hc
    decide +kernel

theorem exponent?_powerChars : exponent? w.powerChars = some w.powerValue := by
  unfold powerChars powerValue
  cases hpower : w.power with
  | none => rfl
  | some p =>
    obtain ⟨negative, digits⟩ := p
    obtain ⟨hne, hdigits⟩ := w.power_digits _ hpower
    have hnone : EndsDigits [] := by simp [EndsDigits]
    have htake := takeDigits_of_digits hdigits hnone 0 0
    have hlength : digits.length ≠ 0 := by simpa using hne
    have hsign : sign ((if negative then '-' else '+') :: digits) = (negative, digits) := by
      cases negative <;> rfl
    simp only [List.append_nil, Nat.zero_add] at htake
    simp [exponent?, hsign, htake, hlength]

theorem unsigned?_chars (negative : Bool) :
    unsigned? negative w.chars = some (Binary64.nearest negative w.decimal.value) := by
  have hwhole := takeDigits_of_digits w.whole_digits w.endsDigits_rest 0 0
  have hlength : w.whole.length ≠ 0 := by simpa using w.whole_ne_nil
  have hvalue := Binary64.ofDecimal_eq_nearest negative w.decimal.digits w.decimal.exponent
  rw [Nat.zero_add] at hwhole
  by_cases hfraction : w.fraction = []
  · have hrest : w.fractionChars ++ w.powerChars = w.powerChars := by
      simp [fractionChars, hfraction]
    have hpoint : ∀ rest, w.powerChars ≠ '.' :: rest := by
      intro rest
      unfold powerChars
      split <;> simp
    simp only [unsigned?, chars, hwhole]
    rw [hrest]
    split
    · next rest hdot => exact absurd hdot (hpoint rest)
    · simp only [Nat.add_zero, if_neg hlength, exponent?_powerChars, Option.map_some]
      simpa [decimal, hfraction, Decimal.value] using hvalue
  · have hrest : w.fractionChars ++ w.powerChars = '.' :: (w.fraction ++ w.powerChars) := by
      simp [fractionChars, hfraction]
    have htake := takeDigits_of_digits w.fraction_digits w.endsDigits_powerChars
      (Nat.ofDigitChars 10 w.whole 0) 0
    rw [hrest] at hwhole
    rw [Nat.zero_add] at htake
    simp only [unsigned?, chars, hrest, hwhole, htake, exponent?_powerChars, Option.map_some]
    rw [if_neg (by omega)]
    simpa [decimal, Decimal.value, Nat.ofDigitChars_append] using hvalue

theorem readFloat?_signed (negative : Bool) :
    readFloat? (w.signed negative) = some (Binary64.nearest negative w.decimal.value) := by
  have hmargin : ∀ c ∈ w.signed negative, isMargin c = false := fun c hc =>
    let h := (w.isNumberChar_of_mem hc).range
    isMargin_eq_false h.1 h.2
  have hunderscore : '_' ∉ w.signed negative := fun h =>
    (w.isNumberChar_of_mem h).ne_underscore rfl
  obtain ⟨c, s, hs, hc⟩ := w.chars_cons
  have hsign : sign (w.signed negative) = (negative, w.chars) := by
    rw [signed, hs]
    exact sign_signed hc s negative
  have hword (word : String) (hstart : ∀ d ∈ word.toList.head?, d.isDigit = false) :
      String.ofList (w.chars.map Char.toLower) ≠ word := by
    rintro rfl
    have hdigit := hstart c (by simp [hs, toLower_of_isDigit hc])
    simp [hc] at hdigit
  simp only [readFloat?, stripChars_eq_self hmargin, dropUnderscores_eq_self hunderscore,
    Option.bind_some, hsign]
  have hinf := hword "inf" (by simp)
  have hinfinity := hword "infinity" (by simp)
  have hnan := hword "nan" (by simp)
  simp [hinf, hinfinity, hnan, unsigned?_chars]

end Written

/-! ### Layouts -/

theorem toDigits_start {n : ℕ} (hn : n ≠ 0) : ∃ c s, Nat.toDigits 10 n = c :: s ∧ c ≠ '0' := by
  obtain ⟨c, s, hs⟩ := List.exists_cons_of_ne_nil (Nat.toDigits_ne_nil (n := n) (b := 10))
  refine ⟨c, s, hs, ?_⟩
  rintro rfl
  -- After a zero, the other digits alone would show the number, but they are too few.
  have hvalue : Nat.ofDigitChars 10 s 0 = n := by
    have h := Nat.ofDigitChars_ten_toDigits (n := n)
    rwa [hs, Nat.ofDigitChars_cons] at h
  have hdigits : ∀ d ∈ s, d.isDigit = true := fun d hd =>
    isDigit_of_mem_toDigits (n := n) d (by simp [hs, hd])
  cases s with
  | nil => exact hn hvalue.symm
  | cons d s =>
    have hlt : n < 10 ^ (d :: s).length :=
      lt_pow_of_digitsFrom (by rw [digitsFrom_start (by simp) hdigits, hvalue]) (by simp)
    have hlength := (Nat.length_toDigits_le_iff (b := 10) (by decide) (by simp)).2 hlt
    rw [hs] at hlength
    simp at hlength

theorem toList_zeros (n : ℕ) : (Layout.zeros n).toList = List.replicate n '0' := by
  simp [Layout.zeros]

theorem isDigit_of_mem_zeros {n : ℕ} : ∀ c ∈ List.replicate n '0', c.isDigit = true := by
  intro c hc
  rw [List.eq_of_mem_replicate hc]
  rfl

/-- Digits that show a number, of which no zero stands first. -/
structure Shows (n : ℕ) (digits : List Char) : Prop where
  isDigit : ∀ c ∈ digits, c.isDigit = true
  value : Nat.ofDigitChars 10 digits 0 = n
  start : ∃ c s, digits = c :: s ∧ c ≠ '0'

theorem shows_toDigits {n : ℕ} (hn : n ≠ 0) : Shows n (Nat.toDigits 10 n) :=
  ⟨isDigit_of_mem_toDigits, Nat.ofDigitChars_ten_toDigits, toDigits_start hn⟩

variable {n : ℕ} {digits : List Char} {exponent point : ℤ}

/-- All digits stand behind the point. -/
theorem Shows.exists_written_behind (h : Shows n digits) (hpoint : point = exponent + digits.length)
    (hsmall : point ≤ 0) :
    ∃ w : Written, w.chars = '0' :: '.' :: (List.replicate (-point).toNat '0' ++ digits) ∧
      w.decimal.value = (⟨n, exponent⟩ : Decimal).value ∧ w.fraction ≠ [] := by
  obtain ⟨c, s, hs, -⟩ := h.start
  have hne : digits ≠ [] := by simp [hs]
  let w : Written := {
    whole := ['0'], fraction := List.replicate (-point).toNat '0' ++ digits
    whole_digits := by simp
    fraction_digits := List.forall_mem_append.2 ⟨isDigit_of_mem_zeros, h.isDigit⟩
    power_digits := by simp
    whole_start := .inl rfl }
  have hdecimal : w.decimal = ⟨n, exponent⟩ := by
    simp only [w, Written.decimal, Written.powerValue, Decimal.mk.injEq]
    refine ⟨?_, ?_⟩
    · simpa [Nat.ofDigitChars_append, Nat.ofDigitChars_cons] using h.value
    · simp only [List.length_append, List.length_replicate]
      omega
  refine ⟨w, ?_, by rw [hdecimal], by simp [w, hne]⟩
  simp [w, Written.chars, Written.fractionChars, Written.powerChars, hne]

/-- All digits stand before the point. -/
theorem Shows.exists_written_before (h : Shows n digits) (hpoint : point = exponent + digits.length)
    (hlarge : ¬point ≤ 0) (hlong : digits.length ≤ point.toNat) :
    ∃ w : Written,
      w.chars = digits ++ List.replicate (point.toNat - digits.length) '0' ++ ['.', '0'] ∧
        w.decimal.value = (⟨n, exponent⟩ : Decimal).value ∧ w.fraction ≠ [] := by
  obtain ⟨c, s, hs, hc⟩ := h.start
  let w : Written := {
    whole := digits ++ List.replicate (point.toNat - digits.length) '0', fraction := ['0']
    whole_digits := List.forall_mem_append.2 ⟨h.isDigit, isDigit_of_mem_zeros⟩
    fraction_digits := by simp
    power_digits := by simp
    whole_start := .inr ⟨c, _, by rw [hs, List.cons_append], hc⟩ }
  have hexponent : point.toNat - digits.length = exponent.toNat := by omega
  refine ⟨w, by simp [w, Written.chars, Written.fractionChars, Written.powerChars], ?_, by simp [w]⟩
  simp only [w, Written.decimal, Written.powerValue, Decimal.value, hexponent,
    Nat.ofDigitChars_append, h.value, Nat.ofDigitChars_replicate_zero]
  obtain ⟨k, rfl⟩ := Int.eq_ofNat_of_zero_le (show 0 ≤ exponent by omega)
  simp [Nat.ofDigitChars_cons]
  ring

/-- The point stands among the digits. -/
theorem Shows.exists_written_among (h : Shows n digits) (hpoint : point = exponent + digits.length)
    (hlarge : ¬point ≤ 0) (hshort : ¬digits.length ≤ point.toNat) :
    ∃ w : Written, w.chars = digits.take point.toNat ++ '.' :: digits.drop point.toNat ∧
      w.decimal.value = (⟨n, exponent⟩ : Decimal).value ∧ w.fraction ≠ [] := by
  obtain ⟨c, s, hs, hc⟩ := h.start
  let w : Written := {
    whole := digits.take point.toNat, fraction := digits.drop point.toNat
    whole_digits := fun d hd => h.isDigit d (List.mem_of_mem_take hd)
    fraction_digits := fun d hd => h.isDigit d (List.mem_of_mem_drop hd)
    power_digits := by simp
    whole_start := by
      obtain ⟨k, hk⟩ : ∃ k, point.toNat = k + 1 := ⟨point.toNat - 1, by omega⟩
      exact .inr ⟨c, s.take k, by rw [hs, hk, List.take_succ_cons], hc⟩ }
  have hfraction : digits.drop point.toNat ≠ [] := by simpa using hshort
  have hdecimal : w.decimal = ⟨n, exponent⟩ := by
    simp only [w, Written.decimal, Written.powerValue, Decimal.mk.injEq,
      List.take_append_drop, h.value, List.length_drop, true_and]
    omega
  refine ⟨w, ?_, by rw [hdecimal], hfraction⟩
  simp [w, Written.chars, Written.fractionChars, Written.powerChars, hfraction]

theorem Shows.exists_written_positional (h : Shows n digits)
    (hpoint : point = exponent + digits.length) :
    ∃ w : Written, (Layout.positional digits point).toList = w.chars ∧
      w.decimal.value = (⟨n, exponent⟩ : Decimal).value ∧ w.fraction ≠ [] := by
  unfold Layout.positional
  split
  · next hsmall =>
    obtain ⟨w, hchars, hw⟩ := h.exists_written_behind hpoint hsmall
    exact ⟨w, by simp [hchars, toList_zeros], hw⟩
  · next hlarge =>
    split
    · next hlong =>
      obtain ⟨w, hchars, hw⟩ := h.exists_written_before hpoint hlarge hlong
      exact ⟨w, by simp [hchars, toList_zeros], hw⟩
    · next hshort =>
      obtain ⟨w, hchars, hw⟩ := h.exists_written_among hpoint hlarge hshort
      exact ⟨w, by simp [hchars], hw⟩

theorem Shows.exists_written_scientific (h : Shows n digits) (l : Layout) {power : ℤ}
    (hpower : power = exponent + digits.length - 1) :
    ∃ w : Written, (l.scientific digits power).toList = w.chars ∧
      w.decimal.value = (⟨n, exponent⟩ : Decimal).value ∧ w.power ≠ none := by
  obtain ⟨c, s, rfl, hc⟩ := h.start
  have hpowerDigits := isDigit_of_mem_toDigits (n := power.natAbs)
  let shown := List.replicate (l.exponentDigits - (Layout.natText power.natAbs).length) '0' ++
    Nat.toDigits 10 power.natAbs
  let w : Written := {
    whole := [c], fraction := s, power := some (decide (power < 0), shown)
    whole_digits := by simpa using h.isDigit c (List.mem_cons_self ..)
    fraction_digits := fun d hd => h.isDigit d (List.mem_cons_of_mem c hd)
    power_digits := by
      rintro p hp
      obtain rfl := Option.some.inj hp
      exact ⟨by simp [shown, Nat.toDigits_ne_nil],
        List.forall_mem_append.2 ⟨isDigit_of_mem_zeros, hpowerDigits⟩⟩
    whole_start := .inr ⟨c, [], rfl, hc⟩ }
  have hshown : Nat.ofDigitChars 10 shown 0 = power.natAbs := by
    simp [shown, Nat.ofDigitChars_append]
  have hdecimal : w.decimal = ⟨n, exponent⟩ := by
    simp only [w, Written.decimal, Written.powerValue, Decimal.mk.injEq, hshown,
      List.singleton_append, h.value, true_and, decide_eq_true_eq]
    simp only [List.length_cons] at hpower
    split <;> omega
  refine ⟨w, ?_, by rw [hdecimal], by simp [w]⟩
  cases s <;> by_cases hneg : power < 0 <;>
    simp [w, shown, Layout.scientific, Written.chars, Written.fractionChars, Written.powerChars,
      toList_zeros, Layout.natText, hneg]

/-- The text of a decimal: positional where its first digit stands near the point. -/
def layOut (l : Layout) (d : Decimal) : String :=
  let digits := Nat.toDigits 10 d.digits
  let power := d.exponent + digits.length - 1
  if l.minPositional ≤ power && power ≤ l.maxPositional then Layout.positional digits (power + 1)
  else l.scientific digits power

theorem exists_written_decimal (l : Layout) {d : Decimal} (hd : d.digits ≠ 0) :
    ∃ w : Written, (layOut l d).toList = w.chars ∧ w.decimal.value = d.value ∧
      (w.fraction ≠ [] ∨ w.power ≠ none) := by
  unfold layOut
  dsimp only
  split
  · have hpoint := sub_add_cancel (d.exponent + (Nat.toDigits 10 d.digits).length) 1
    obtain ⟨w, hchars, hvalue, hfraction⟩ := (shows_toDigits hd).exists_written_positional hpoint
    exact ⟨w, hchars, hvalue, .inl hfraction⟩
  · obtain ⟨w, hchars, hvalue, hpower⟩ := (shows_toDigits hd).exists_written_scientific l rfl
    exact ⟨w, hchars, hvalue, .inr hpower⟩

/-- Every finite number in canonical form is laid out as a written number that is nearest to it
and that no reader takes for an integer. -/
theorem exists_written (l : Layout) {significand : ℕ} {exponent : ℤ}
    (h : Binary64.Canonical significand exponent) (negative : Bool) :
    ∃ w : Written, (l.write (.finite negative significand exponent)).toList = w.signed negative ∧
      Binary64.nearest negative w.decimal.value = .finite negative significand exponent ∧
      (w.fraction ≠ [] ∨ w.power ≠ none) := by
  have hsign : (if negative then "-" else "").toList = if negative then ['-'] else [] := by
    cases negative <;> rfl
  by_cases hzero : significand = 0
  · subst hzero
    let w : Written := {
      whole := ['0'], fraction := ['0'], whole_digits := by simp, fraction_digits := by simp
      power_digits := by simp, whole_start := .inl rfl }
    have hexponent : exponent = Binary64.minExponent := by simpa using h.normal
    have hvalue : w.decimal.value = 0 := by
      simp [w, Written.decimal, Decimal.value, Nat.ofDigitChars_cons]
    refine ⟨w, ?_, ?_, by simp [w]⟩
    · simp [Layout.write, hsign, w, Written.signed, Written.chars, Written.fractionChars,
        Written.powerChars]
    · rw [hvalue, Binary64.nearest_zero, hexponent]
      rfl
  · obtain ⟨w, hchars, hvalue, hpart⟩ :=
      exists_written_decimal l (Decimal.digits_shortest_ne_zero h hzero)
    have hwrite : l.write (.finite negative significand exponent) =
        (if negative then "-" else "") ++ layOut l (Decimal.shortest significand exponent) := by
      simp only [Layout.write, if_neg hzero, layOut]
    refine ⟨w, ?_, ?_, hpart⟩
    · rw [hwrite, String.toList_append, hsign, hchars, Written.signed]
    · rw [hvalue]
      exact Binary64.nearest_eq_finite_iff.2 (Decimal.nearest_shortest h hzero)

theorem isCanonical_of_unsigned? {negative : Bool} {s : List Char} {x : Binary64}
    (h : unsigned? negative s = some x) : x.IsCanonical := by
  unfold unsigned? at h
  dsimp only at h
  split at h
  all_goals
    split at h
    · simp at h
    · obtain ⟨e, -, rfl⟩ := Option.map_eq_some_iff.1 h
      exact Binary64.isCanonical_ofDecimal ..

/-- What is read out of any text is in canonical form. -/
theorem isCanonical_of_readFloat? {s : List Char} {x : Binary64} (h : readFloat? s = some x) :
    x.IsCanonical := by
  unfold readFloat? at h
  obtain ⟨t, -, ht⟩ := Option.bind_eq_some_iff.1 h
  dsimp only at ht
  split at ht
  · obtain rfl := Option.some.inj ht
    trivial
  · split at ht
    · obtain rfl := Option.some.inj ht
      trivial
    · exact isCanonical_of_unsigned? ht

end DocTrace.Number
