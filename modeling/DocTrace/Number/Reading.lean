import DocTrace.Number.Binary64
import DocTrace.Text.Blank
import DocTrace.Text.Case
import DocTrace.Text.Digit
import DocTrace.Text.Split

/-!
Numbers written in text, with digits of any script and blanks around them.
-/

namespace DocTrace.Number

open Text

/-- The blanks that may stand around a number: those of ASCII without the four separators, and
all others of Unicode. -/
def isMargin (c : Char) : Bool := isBlank c && !(28 ≤ c.toNat && c.toNat ≤ 31)

theorem isBlank_of_isMargin {c : Char} (h : isMargin c = true) : isBlank c = true := by
  simp only [isMargin, Bool.and_eq_true] at h
  exact h.1

inductive IntFault where
  | malformed
  | tooLong
deriving DecidableEq

/-- The most digits that a number in base ten may have. -/
def maxDigits : Nat := 4300

/-- The value of digits in a base, most significant first, and how many there
are. Single underscores may stand between two digits. -/
def digitsFrom (base value count : Nat) (afterDigit : Bool) : List Char → Option (Nat × Nat)
  | [] => if afterDigit then some (value, count) else none
  | c :: s =>
    if c = '_' then
      if afterDigit && !s.isEmpty then digitsFrom base value count false s else none
    else
      match baseDigit? base c with
      | some d => digitsFrom base (value * base + d) (count + 1) true s
      | none => none

def sign : List Char → Bool × List Char
  | '-' :: s => (true, s)
  | '+' :: s => (false, s)
  | s => (false, s)

/-- The letters that may stand before the digits of a base, after a zero. -/
def baseMarks (base : Nat) : List Char :=
  if base = 2 then ['b', 'B'] else if base = 8 then ['o', 'O']
  else if base = 16 then ['x', 'X'] else []

/-- Drops a base mark; one underscore may follow it. -/
def dropBaseMark (base : Nat) (s : List Char) : List Char :=
  match s with
  | '0' :: mark :: rest =>
    if (baseMarks base).contains mark then
      match rest with
      | '_' :: rest => rest
      | rest => rest
    else s
  | _ => s

def readInt (base : Nat) (s : List Char) : Except IntFault Int :=
  let (negative, rest) := sign (stripChars isMargin s)
  match digitsFrom base 0 0 false (dropBaseMark base rest) with
  | none => .error .malformed
  | some (value, count) =>
    if base = 10 && count > maxDigits then .error .tooLong
    else .ok (if negative then -(value : Int) else value)

/-- The decimal digits at the beginning: their value, their count, and the rest. -/
def takeDigits (value count : Nat) : List Char → Nat × Nat × List Char
  | [] => (value, count, [])
  | c :: s =>
    match digitValue? c with
    | some d => takeDigits (value * 10 + d) (count + 1) s
    | none => (value, count, c :: s)

/-- An exponent up to the end, or nothing. -/
def exponent? (s : List Char) : Option Int :=
  match s with
  | [] => some 0
  | c :: s =>
    if c = 'e' || c = 'E' then
      let (negative, rest) := sign s
      match takeDigits 0 0 rest with
      | (value, count, []) =>
        if count = 0 then none else some (if negative then -(value : Int) else value)
      | _ => none
    else none

/-- An unsigned number with digits before the point, after it, or both. -/
def unsigned? (negative : Bool) (s : List Char) : Option Binary64 :=
  let (whole, wholeCount, rest) := takeDigits 0 0 s
  let (digits, places, rest) :=
    match rest with
    | '.' :: rest => takeDigits whole 0 rest
    | rest => (whole, 0, rest)
  if wholeCount + places = 0 then none
  else (exponent? rest).map fun e => Binary64.ofDecimal negative digits (e - places)

/-- Drops underscores that stand between two digits; any other one makes the text no number. -/
def dropUnderscores (afterDigit : Bool) : List Char → Option (List Char)
  | [] => some []
  | c :: s =>
    if c = '_' then
      if afterDigit && (s.head?.bind digitValue?).isSome then dropUnderscores false s else none
    else (dropUnderscores (digitValue? c).isSome s).map (c :: ·)

def readFloat? (s : List Char) : Option Binary64 :=
  (dropUnderscores false (stripChars isMargin s)).bind fun s =>
    let (negative, rest) := sign s
    let word := String.ofList (rest.map Char.toLower)
    if word = "inf" || word = "infinity" then some (.infinite negative)
    else if word = "nan" then some .nan
    else unsigned? negative rest

end DocTrace.Number
