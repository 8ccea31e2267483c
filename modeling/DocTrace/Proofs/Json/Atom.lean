import DocTrace.Json.Printer
import DocTrace.Proofs.Json.Readable
import DocTrace.Proofs.Text.Beginning

/-! Atoms of JSON documents are read as they are written. A written number is cut
into its digits, its fraction and its exponent in the places where they were put
together; the words have characters that no number has. -/

namespace DocTrace.Json

open Text Number

section Written

variable (w : Written) (negative : Bool)

theorem wholePart?_chars :
    wholePart? w.chars = some (w.whole, w.fractionChars ++ w.powerChars) := by
  have hrest : ∀ c ∈ (w.fractionChars ++ w.powerChars).head?, c.isDigit = false := by
    unfold Written.fractionChars Written.powerChars
    split <;> split <;> simp
  rcases w.whole_start with hzero | ⟨c, s, hs, hc⟩
  · simp [wholePart?, Written.chars, hzero]
  · have hspan := span1?_append w.whole_ne_nil w.whole_digits hrest
    rw [Written.chars, wholePart?]
    · exact hspan
    · intro rest hstart
      rw [hs, List.cons_append] at hstart
      exact hc (List.cons.inj hstart).1

theorem integerPart?_signed :
    integerPart? (w.signed negative) =
      some ((if negative then ['-'] else []) ++ w.whole, w.fractionChars ++ w.powerChars) := by
  have hwhole := wholePart?_chars w
  cases negative with
  | true => simp [integerPart?, Written.signed, hwhole]
  | false =>
    obtain ⟨c, s, hs, hc⟩ := w.chars_cons
    have hminus : c ≠ '-' := ne_of_isDigit hc rfl
    have hsplit : w.signed false = w.chars := rfl
    rw [hsplit, integerPart?]
    · exact hwhole
    · intro rest hstart
      rw [hs] at hstart
      exact hminus (List.cons.inj hstart).1

theorem fractionPart_rest :
    fractionPart (w.fractionChars ++ w.powerChars) = (w.fractionChars, w.powerChars) := by
  have hpower : ∀ c ∈ w.powerChars.head?, c.isDigit = false := by
    unfold Written.powerChars
    split <;> simp
  by_cases hfraction : w.fraction = []
  · have hnone : w.fractionChars = [] := by simp [Written.fractionChars, hfraction]
    rw [hnone, List.nil_append]
    unfold Written.powerChars
    split <;> rfl
  · have hsome : w.fractionChars = '.' :: w.fraction := by simp [Written.fractionChars, hfraction]
    rw [hsome]
    simp [fractionPart, span1?_append hfraction w.fraction_digits hpower]

theorem exponentPart_powerChars : exponentPart w.powerChars = (w.powerChars, []) := by
  unfold Written.powerChars
  cases hpower : w.power with
  | none => rfl
  | some p =>
    obtain ⟨negative, digits⟩ := p
    obtain ⟨hne, hdigits⟩ := w.power_digits _ hpower
    have hspan : span1? Char.isDigit (digits ++ []) = some (digits, []) :=
      span1?_append hne hdigits (by simp)
    rw [List.append_nil] at hspan
    cases negative <;> simp [exponentPart, signPart, hspan]

theorem readNumber_signed_float (hpart : w.fraction ≠ [] ∨ w.power ≠ none) :
    readNumber (w.signed negative) = .ok (.float (Binary64.nearest negative w.decimal.value)) := by
  have hfloat := w.readFloat?_signed negative
  have hnotInt : (w.fractionChars.isEmpty && w.powerChars.isEmpty) = false := by
    rcases hpart with hfraction | hpower
    · simp [Written.fractionChars, hfraction]
    · obtain ⟨p, hp⟩ := Option.ne_none_iff_exists'.1 hpower
      simp [Written.powerChars, hp]
  rw [Written.signed, Written.chars] at hfloat
  simp [readNumber, integerPart?_signed, fractionPart_rest, exponentPart_powerChars, hnotInt,
    hfloat, Except.bind]

end Written

theorem exists_written_nat (n : ℕ) :
    ∃ w : Written, w.whole = Nat.toDigits 10 n ∧ w.fraction = [] ∧ w.power = none := by
  have hstart : Nat.toDigits 10 n = ['0'] ∨ ∃ c s, Nat.toDigits 10 n = c :: s ∧ c ≠ '0' := by
    by_cases hn : n = 0
    · exact .inl (hn ▸ Nat.toDigits_zero 10)
    · exact .inr (toDigits_start hn)
  exact ⟨⟨Nat.toDigits 10 n, [], none, isDigit_of_mem_toDigits, by simp, by simp, hstart⟩,
    rfl, rfl, rfl⟩

theorem readNumber_int {i : ℤ} (hi : i.natAbs < 10 ^ maxDigits) :
    readNumber ((if i < 0 then ['-'] else []) ++ Nat.toDigits 10 i.natAbs) = .ok (.int i) := by
  obtain ⟨w, hwhole, hfraction, hpower⟩ := exists_written_nat i.natAbs
  have hfractionChars : w.fractionChars = [] := by simp [Written.fractionChars, hfraction]
  have hpowerChars : w.powerChars = [] := by simp [Written.powerChars, hpower]
  have hsigned : (if i < 0 then ['-'] else []) ++ Nat.toDigits 10 i.natAbs =
      w.signed (decide (i < 0)) := by
    simp [Written.signed, Written.chars, hwhole, hfractionChars, hpowerChars]
  have hint := readInt_toDigits hi (decide (i < 0))
  have hvalue : (if decide (i < 0) then -(i.natAbs : ℤ) else i.natAbs) = i := by
    simp only [decide_eq_true_eq]
    split <;> omega
  rw [hvalue] at hint
  rw [hsigned]
  simp only [readNumber, integerPart?_signed, hfractionChars, hpowerChars, hwhole, hint]
  rfl

/-- What is neither an array nor an object nor a string. -/
def IsAtom : Json → Prop
  | .array _ | .object _ | .str _ => False
  | _ => True

theorem readAtom_of_number {s : List Char} (h : ∀ c ∈ s, Written.IsNumberChar c) :
    readAtom s = readNumber s := by
  have hword (word : String) (c : Char) (hc : c ∈ word.toList) (hnot : ¬Written.IsNumberChar c) :
      String.ofList s ≠ word := by
    rintro rfl
    exact hnot (h c (by simpa using hc))
  unfold readAtom
  split
  · next heq => exact absurd heq (hword _ 'n' (by simp) (by simp [Written.IsNumberChar]))
  · next heq => exact absurd heq (hword _ 't' (by simp) (by simp [Written.IsNumberChar]))
  · next heq => exact absurd heq (hword _ 'f' (by simp) (by simp [Written.IsNumberChar]))
  · next heq => exact absurd heq (hword _ 'N' (by simp) (by simp [Written.IsNumberChar]))
  · next heq => exact absurd heq (hword _ 'I' (by simp) (by simp [Written.IsNumberChar]))
  · next heq => exact absurd heq (hword _ 'I' (by simp) (by simp [Written.IsNumberChar]))
  · rfl

theorem isNumberChar_of_mem_int {i : ℤ} {c : Char}
    (hc : c ∈ (if i < 0 then ['-'] else []) ++ Nat.toDigits 10 i.natAbs) :
    Written.IsNumberChar c := by
  rcases List.mem_append.1 hc with hc | hc
  · split at hc
    · simp_all [Written.IsNumberChar]
    · simp at hc
  · exact .inl (isDigit_of_mem_toDigits c hc)

theorem readAtom_atom {room : ℕ} {j : Json} (h : Readable room j) (hatom : IsAtom j)
    (charset : Charset) : readAtom (atom charset j) = .ok j := by
  cases h with
  | null => rfl
  | bool b => cases b <;> rfl
  | int hi =>
    rw [atom, readAtom_of_number fun c hc => isNumberChar_of_mem_int hc]
    exact readNumber_int hi
  | @float _ x hx =>
    cases x with
    | nan => rfl
    | infinite negative => cases negative <;> rfl
    | finite negative significand exponent =>
      obtain ⟨w, hchars, hnearest, hpart⟩ := exists_written Binary64.jsonLayout hx negative
      rw [atom, hchars, readAtom_of_number fun c hc => w.isNumberChar_of_mem hc,
        readNumber_signed_float w negative hpart, hnearest]
  | str => exact hatom.elim
  | array => exact hatom.elim
  | object => exact hatom.elim

theorem isAtomChar_of_isNumberChar {c : Char} (h : Written.IsNumberChar c) :
    isAtomChar c = true := by
  rcases h with h | rfl | rfl | rfl | rfl
  · simp [isAtomChar, Char.isAlphanum, h]
  all_goals rfl

/-- Atoms are written with at least one character, and none ends them. -/
theorem atom_chars {room : ℕ} {j : Json} (h : Readable room j) (hatom : IsAtom j)
    (charset : Charset) :
    atom charset j ≠ [] ∧ ∀ c ∈ atom charset j, isAtomChar c = true := by
  cases h with
  | null => exact ⟨List.cons_ne_nil _ _, List.all_eq_true.mp rfl⟩
  | bool b => cases b <;> exact ⟨List.cons_ne_nil _ _, List.all_eq_true.mp rfl⟩
  | int hi =>
    refine ⟨by simp [atom, Nat.toDigits_ne_nil], fun c hc => ?_⟩
    exact isAtomChar_of_isNumberChar (isNumberChar_of_mem_int hc)
  | @float _ x hx =>
    cases x with
    | nan => exact ⟨List.cons_ne_nil _ _, List.all_eq_true.mp rfl⟩
    | infinite negative =>
      cases negative <;> exact ⟨List.cons_ne_nil _ _, List.all_eq_true.mp rfl⟩
    | finite negative significand exponent =>
      obtain ⟨w, hchars, -, -⟩ := exists_written Binary64.jsonLayout hx negative
      rw [atom, hchars]
      refine ⟨by simp [Written.signed, Written.chars, w.whole_ne_nil], fun c hc => ?_⟩
      exact isAtomChar_of_isNumberChar (w.isNumberChar_of_mem hc)
  | str => exact hatom.elim
  | array => exact hatom.elim
  | object => exact hatom.elim

end DocTrace.Json
