import DocTrace.Number.Reading
import DocTrace.Text.Base64
import DocTrace.Value.Basic
import DocTrace.Yaml.Tag

/-!
The value of a scalar under its tag.
-/

namespace DocTrace.Yaml.Scalar

open Text

def truthValues : List (String × Bool) :=
  [("yes", true), ("no", false), ("true", true), ("false", false), ("on", true), ("off", false)]

def truthValue (text : List Char) : Except Fault Value :=
  match truthValues.lookup (.ofList (lower text)) with
  | some b => .ok (.bool b)
  | none => .error (.truthValue (lower text))

def dropUnderscores (text : List Char) : List Char := text.filter (· ≠ '_')

def readInt (base : Nat) (text : List Char) : Except Fault Int :=
  match Number.readInt base text with
  | .ok i => .ok i
  | .error .malformed => .error (.integer base text)
  | .error .tooLong => .error (.integerTooLong (text.countP fun c => (digitValue? c).isSome))

def readFloat (text : List Char) : Except Fault Binary64 :=
  match Number.readFloat? text with
  | some x => .ok x
  | none => .error (.float text)

def signed (text : List Char) : Except Fault (Int × List Char) :=
  match text with
  | [] => .error .emptyNumber
  | '-' :: s => .ok (-1, s)
  | '+' :: s => .ok (1, s)
  | s => .ok (1, s)

/-- An integer: decimal, binary, octal after a zero, hexadecimal, or in base sixty with colons. -/
def integer (text : List Char) : Except Fault Value := do
  let (sign, digits) ← signed (dropUnderscores text)
  let magnitude ←
    match digits with
    | [] => Except.error Fault.emptyNumber
    | ['0'] => pure 0
    | '0' :: 'b' :: rest => readInt 2 rest
    | '0' :: 'x' :: rest => readInt 16 rest
    | '0' :: _ => readInt 8 digits
    | _ =>
      if digits.contains ':' then do
        let places ← (Tag.colonPieces [] digits).mapM (readInt 10)
        pure (places.foldl (fun n d => n * 60 + d) 0)
      else readInt 10 digits
  return .int (sign * magnitude)

/-- Places in base sixty, the last one first, added up in that order. -/
def sixtieths (sum : Binary64) (base : Nat) : List Binary64 → Binary64
  | [] => sum
  | x :: rest => sixtieths (sum.add (x.mul (.ofInt base))) (base * 60) rest

/-- How the value that is no number is written, after a sign. -/
def nanDigits : List Char := ".nan".toList

def isNaN (text : List Char) : Bool :=
  match signed (lower (dropUnderscores text)) with
  | .ok (_, digits) => digits = nanDigits
  | .error _ => false

def floating (text : List Char) : Except Fault Value := do
  let (sign, digits) ← signed (lower (dropUnderscores text))
  let magnitude ←
    if digits = ".inf".toList then pure (Binary64.infinite false)
    else if digits = nanDigits then pure Binary64.nan
    else if digits.contains ':' then do
      let places ← (Tag.colonPieces [] digits).mapM readFloat
      pure (sixtieths (.zero false) 1 places.reverse)
    else readFloat digits
  return .float (if sign < 0 then magnitude.neg else magnitude)

def natural (digits : List Char) : Nat :=
  digits.foldl (fun n c => n * 10 + (c.toNat - '0'.toNat)) 0

/-- The first six digits of a fraction, as millionths. -/
def microseconds (fraction : List Char) : Nat :=
  let digits := fraction.take 6
  natural digits * Nat.pow 10 (6 - digits.length)

def offsetSeconds : Option (Bool × List Char × List Char) → Int
  | none => 0
  | some (negative, hours, minutes) =>
    let n : Int := (natural hours * 3600 + natural minutes * 60 : Nat)
    if negative then -n else n

def timestamp (text : List Char) : Except Fault Value :=
  match Tag.timestampParts? (Tag.dropFinalNewline text) with
  | none => .error .timestamp
  | some parts =>
    let result :=
      match parts.time with
      | none =>
        (Date.make (natural parts.year) (natural parts.month) (natural parts.day)).map Value.date
      | some (hour, minute, second) =>
        (Moment.make (natural parts.year) (natural parts.month) (natural parts.day) (natural hour)
          (natural minute) (natural second) (microseconds parts.fraction)
          (parts.zone.map offsetSeconds)).map Value.moment
    result.mapError Fault.calendar

def binary (text : List Char) : Except Fault Value :=
  if text.all (·.toNat < 128) then
    match Base64.decode text with
    | some bytes => .ok (.bytes bytes)
    | none => .error .malformed
  else .error .malformed

def value (tag : Tag) (text : List Char) : Except Fault Value :=
  match tag with
  | .null => .ok .null
  | .bool => truthValue text
  | .int => integer text
  | .float => floating text
  | .timestamp => timestamp text
  | .binary => binary text
  | .str => .ok (.str (.ofList text))
  | _ => .error .malformed

end DocTrace.Yaml.Scalar
