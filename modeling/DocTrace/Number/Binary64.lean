/-!
Floating-point numbers of double precision over exact arithmetic. A finite
number is a significand below 2^53 times a power of two; every operation is
exact first and then rounded to the nearest number, a tie to the even one.
-/

namespace DocTrace

inductive Binary64 where
  | nan
  | infinite (negative : Bool)
  | finite (negative : Bool) (significand : Nat) (exponent : Int)
deriving DecidableEq

namespace Binary64

def minExponent : Int := -1074

def maxExponent : Int := 971

def zero (negative : Bool) : Binary64 := .finite negative 0 minExponent

/-- The nearest integer to a quotient, a tie going to the even one. -/
def divNearest (num den : Nat) : Nat :=
  let quotient := num / den
  let twice := 2 * (num % den)
  if twice > den || (twice = den && quotient % 2 = 1) then quotient + 1 else quotient

/-- `num / den / 2 ^ exponent` as a quotient of natural numbers. -/
def scaled (num den : Nat) (exponent : Int) : Nat × Nat :=
  if exponent ≥ 0 then (num, den * Nat.pow 2 exponent.toNat)
  else (num * Nat.pow 2 (-exponent).toNat, den)

/-- The exponent of the greatest power of two that is at most the quotient. -/
def magnitude (num den : Nat) : Int :=
  let guess : Int := (num.log2 : Int) - den.log2
  let (n, d) := scaled num den guess
  if d ≤ n then guess else guess - 1

/-- The nearest number to `num / den`, with the sign given. -/
def round (negative : Bool) (num den : Nat) : Binary64 :=
  if num = 0 then zero negative
  else
    -- Numbers below the normal range keep the least exponent and lose digits instead.
    let exponent := max (magnitude num den - 52) minExponent
    let (n, d) := scaled num den exponent
    let significand := divNearest n d
    -- Rounding up may carry into one more digit.
    let (significand, exponent) :=
      if significand = Nat.pow 2 53 then (Nat.pow 2 52, exponent + 1) else (significand, exponent)
    if exponent > maxExponent then .infinite negative
    else .finite negative significand exponent

/-- The nearest number to `digits * 10 ^ exponent`. Exponents far outside the
range are settled without computing the power. -/
def ofDecimal (negative : Bool) (digits : Nat) (exponent : Int) : Binary64 :=
  if digits = 0 then zero negative
  else if exponent > 310 then .infinite negative
  else if exponent < -(400 + digits.log2) then zero negative
  else if exponent ≥ 0 then round negative (digits * Nat.pow 10 exponent.toNat) 1
  else round negative digits (Nat.pow 10 (-exponent).toNat)

/-- The exact value of a finite number as a quotient of natural numbers. -/
def ratio (significand : Nat) (exponent : Int) : Nat × Nat :=
  if exponent ≥ 0 then (significand * Nat.pow 2 exponent.toNat, 1)
  else (significand, Nat.pow 2 (-exponent).toNat)

def ofRatio (num : Int) (den : Nat) : Binary64 := round (num < 0) num.natAbs den

def ofInt (i : Int) : Binary64 := ofRatio i 1

/-- A finite number as an integer over a natural number. -/
def ratio? : Binary64 → Option (Int × Nat)
  | .finite negative significand exponent =>
    let (n, d) := ratio significand exponent
    some (if negative then -(n : Int) else n, d)
  | _ => none

def isNegative : Binary64 → Bool
  | .nan => false
  | .infinite negative => negative
  | .finite negative .. => negative

def neg : Binary64 → Binary64
  | .nan => .nan
  | .infinite negative => .infinite (!negative)
  | .finite negative significand exponent => .finite (!negative) significand exponent

def isZero : Binary64 → Bool
  | .finite _ significand _ => significand = 0
  | _ => false

/-- Less than zero; both zeros and NaN are not. -/
def isBelowZero (x : Binary64) : Bool := x.isNegative && !x.isZero

def add (x y : Binary64) : Binary64 :=
  match x, y with
  | .nan, _ => .nan
  | _, .nan => .nan
  | .infinite a, .infinite b => if a = b then .infinite a else .nan
  | .infinite a, _ => .infinite a
  | _, .infinite b => .infinite b
  | .finite a m p, .finite b n q =>
    let (mn, md) := ratio m p
    let (nn, nd) := ratio n q
    let left : Int := mn * nd
    let right : Int := nn * md
    let sum := (if a then -left else left) + (if b then -right else right)
    -- A sum of zero is negative only where both sides are.
    if sum = 0 then zero (a && b) else ofRatio sum (md * nd)

def mul (x y : Binary64) : Binary64 :=
  match x, y with
  | .nan, _ => .nan
  | _, .nan => .nan
  | .finite a m p, .finite b n q =>
    let (mn, md) := ratio m p
    let (nn, nd) := ratio n q
    round (a != b) (mn * nn) (md * nd)
  | x, y => if x.isZero || y.isZero then .nan else .infinite (x.isNegative != y.isNegative)

def divNat (x : Binary64) (d : Nat) : Binary64 :=
  match x with
  | .finite a m p =>
    let (mn, md) := ratio m p
    round a mn (md * d)
  | x => x

def truncate? (x : Binary64) : Option Int := x.ratio?.map fun (n, d) => n.tdiv d

/-- Equality of values: NaN equals nothing and the two zeros are equal. -/
def eqValue (x y : Binary64) : Bool :=
  match x, y with
  | .nan, _ => false
  | _, .nan => false
  | x, y => (x.isZero && y.isZero) || x = y

def eqInt (x : Binary64) (i : Int) : Bool :=
  match x.ratio? with
  | some (n, d) => n = i * d
  | none => false

end Binary64

end DocTrace
