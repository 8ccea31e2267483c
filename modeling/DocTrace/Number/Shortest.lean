import DocTrace.Number.Binary64

/-!
The decimals that stand for a floating-point number: the fewest digits that
read back as the number, and of those the nearest. `Layout` says how such
digits are written out.
-/

namespace DocTrace

/-- The number `digits * 10 ^ exponent`. -/
structure Decimal where
  digits : Nat
  exponent : Int
deriving DecidableEq

namespace Decimal

def dropZeros (limit : Nat) (d : Decimal) : Decimal :=
  match limit with
  | 0 => d
  | limit + 1 =>
    if d.digits ≠ 0 && d.digits % 10 = 0 then dropZeros limit ⟨d.digits / 10, d.exponent + 1⟩
    else d

/-- The least number of digits after the point with which a positive quotient
shows one that is not zero, searched from `places` on. -/
def leadingPlaces (num den places : Nat) : Nat → Nat
  | 0 => places
  | fuel + 1 => if den ≤ num then places else leadingPlaces (num * 10) den (places + 1) fuel

/-- The exponent of the greatest power of ten that is at most the quotient. -/
def magnitude (num den : Nat) : Int :=
  if den ≤ num then ((Nat.toDigits 10 (num / den)).length : Int) - 1
  else -(leadingPlaces num den 0 400)

/-- `num / den / 10 ^ exponent` as a quotient of natural numbers. -/
def scaled (num den : Nat) (exponent : Int) : Nat × Nat :=
  if exponent ≥ 0 then (num, den * Nat.pow 10 exponent.toNat)
  else (num * Nat.pow 10 (-exponent).toNat, den)

def readsBack (significand : Nat) (exponent : Int) (d : Decimal) : Bool :=
  Binary64.ofDecimal false d.digits d.exponent = .finite false significand exponent

/-- The nearer of the two neighbours on the grid of `10 ^ grid` that read back, if any does. -/
def onGrid? (significand : Nat) (exponent : Int) (grid : Int) : Option Decimal :=
  let (num, den) := Binary64.ratio significand exponent
  let (n, d) := scaled num den grid
  let lower : Decimal := ⟨n / d, grid⟩
  let upper : Decimal := ⟨n / d + 1, grid⟩
  -- Where both read back the nearer one counts, and of two equally near the even one.
  let twice := 2 * (n % d)
  match readsBack significand exponent lower, readsBack significand exponent upper with
  | true, true =>
    some (if twice < d || (twice = d && lower.digits % 2 = 0) then lower else upper)
  | true, false => some lower
  | false, true => some upper
  | false, false => none

def exact (significand : Nat) (exponent : Int) : Decimal :=
  if exponent ≥ 0 then ⟨significand * Nat.pow 2 exponent.toNat, 0⟩
  else ⟨significand * Nat.pow 5 (-exponent).toNat, exponent⟩

/-- The first grid from `count` digits on with a neighbour that reads back. -/
def shortestFrom (significand : Nat) (exponent top : Int) (count : Nat) : Nat → Decimal
  | 0 => exact significand exponent
  | fuel + 1 =>
    match onGrid? significand exponent (top + 1 - count) with
    | some d => d
    | none => shortestFrom significand exponent top (count + 1) fuel

def shortest (significand : Nat) (exponent : Int) : Decimal :=
  if significand = 0 then ⟨0, 0⟩
  else
    let (num, den) := Binary64.ratio significand exponent
    (shortestFrom significand exponent (magnitude num den) 1 17).dropZeros 400

end Decimal

structure Layout where
  /-- The least power of ten of the first digit that is written without an exponent. -/
  minPositional : Int
  /-- The greatest such power. -/
  maxPositional : Int
  /-- The fewest digits of a written exponent. -/
  exponentDigits : Nat
  nan : String
  infinity : String

namespace Layout

def zeros (n : Nat) : String := .ofList (List.replicate n '0')

def natText (n : Nat) : String := .ofList (Nat.toDigits 10 n)

/-- A positional number has at least one digit on each side of the point. -/
def positional (digits : List Char) (point : Int) : String :=
  if point ≤ 0 then "0." ++ zeros (-point).toNat ++ .ofList digits
  else if digits.length ≤ point.toNat then
    String.ofList digits ++ zeros (point.toNat - digits.length) ++ ".0"
  else .ofList (digits.take point.toNat) ++ "." ++ .ofList (digits.drop point.toNat)

def scientific (l : Layout) (digits : List Char) (power : Int) : String :=
  let fraction := if digits.length ≤ 1 then "" else "." ++ .ofList (digits.drop 1)
  let shown := natText power.natAbs
  String.ofList (digits.take 1) ++ fraction ++ "e" ++ (if power < 0 then "-" else "+") ++
    zeros (l.exponentDigits - shown.length) ++ shown

def write (l : Layout) : Binary64 → String
  | .nan => l.nan
  | .infinite negative => (if negative then "-" else "") ++ l.infinity
  | .finite negative significand exponent =>
    let d := Decimal.shortest significand exponent
    let digits := Nat.toDigits 10 d.digits
    let power := d.exponent + digits.length - 1
    (if negative then "-" else "") ++
      if significand = 0 then "0.0"
      else if l.minPositional ≤ power && power ≤ l.maxPositional then
        positional digits (power + 1)
      else l.scientific digits power

end Layout

namespace Binary64

/-- The layout of numbers in messages: positional from 10^-4 up to below 10^16. -/
def display : Layout := ⟨-4, 15, 2, "nan", "inf"⟩

def jsonLayout : Layout := ⟨-4, 15, 2, "NaN", "Infinity"⟩

def toText (x : Binary64) : String := display.write x

/-- One digit after the point; the exact value is rounded, a tie going to the even digit. -/
def toTenths : Binary64 → String
  | .nan => "nan"
  | .infinite negative => (if negative then "-" else "") ++ "inf"
  | .finite negative significand exponent =>
    let (num, den) := ratio significand exponent
    let tenths := divNearest (num * 10) den
    (if negative then "-" else "") ++ Layout.natText (tenths / 10) ++ "." ++
      Layout.natText (tenths % 10)

end Binary64

end DocTrace
