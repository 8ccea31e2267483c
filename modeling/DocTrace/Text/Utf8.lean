/-!
Text as bytes in UTF-8. Decoding is strict: a byte that cannot start a
character, a sequence that breaks off and a sequence for a surrogate or beyond
the last code point are faults with their place.
-/

namespace DocTrace.Text.Utf8

def encodeChar (c : Char) : List UInt8 :=
  let n := c.toNat
  if n < 0x80 then [n.toUInt8]
  else if n < 0x800 then [(0xC0 + n / 64).toUInt8, (0x80 + n % 64).toUInt8]
  else if n < 0x10000 then
    [(0xE0 + n / 4096).toUInt8, (0x80 + n / 64 % 64).toUInt8, (0x80 + n % 64).toUInt8]
  else
    [(0xF0 + n / 262144).toUInt8, (0x80 + n / 4096 % 64).toUInt8, (0x80 + n / 64 % 64).toUInt8,
      (0x80 + n % 64).toUInt8]

def encode (s : List Char) : List UInt8 := s.flatMap encodeChar

inductive Reason where
  | invalidStart
  | invalidContinuation
  | unexpectedEnd
deriving DecidableEq

/-- The bytes from `start` on, `length` of them, belong to no character. -/
structure Fault where
  start : Nat
  length : Nat
  first : UInt8
  reason : Reason
deriving DecidableEq

def Reason.message : Reason → String
  | .invalidStart => "invalid start byte"
  | .invalidContinuation => "invalid continuation byte"
  | .unexpectedEnd => "unexpected end of data"

def Fault.message (f : Fault) : String :=
  let place :=
    if f.length = 1 then
      "byte 0x" ++ String.ofList (Nat.toDigits 16 f.first.toNat) ++ s!" in position {f.start}"
    else s!"bytes in position {f.start}-{f.start + f.length - 1}"
  s!"'utf-8' codec can't decode {place}: {f.reason.message}"

/-- How many bytes follow a first byte, and which second bytes are allowed. -/
def sequence? (b : UInt8) : Option (Nat × Nat × Nat) :=
  let n := b.toNat
  if 0xC2 ≤ n && n ≤ 0xDF then some (1, 0x80, 0xBF)
  else if n = 0xE0 then some (2, 0xA0, 0xBF)
  else if n = 0xED then some (2, 0x80, 0x9F)
  else if 0xE1 ≤ n && n ≤ 0xEF then some (2, 0x80, 0xBF)
  else if n = 0xF0 then some (3, 0x90, 0xBF)
  else if 0xF1 ≤ n && n ≤ 0xF3 then some (3, 0x80, 0xBF)
  else if n = 0xF4 then some (3, 0x80, 0x8F)
  else none

/-- The payload of a first byte that `more` bytes follow. -/
def payload (b : UInt8) (more : Nat) : Nat :=
  b.toNat - (if more = 1 then 0xC0 else if more = 2 then 0xE0 else 0xF0)

/-- A character that has begun: its place, its first byte, the bytes read so
far, the bytes still to come, the range of the next one, and the payload. -/
structure Open where
  start : Nat
  first : UInt8
  read : Nat
  more : Nat
  low : Nat
  high : Nat
  value : Nat

/-- Decodes from a place on, inside a character or between two. -/
def decodeFrom (place : Nat) (current : Option Open) : List UInt8 → Except Fault (List Char)
  | [] =>
    match current with
    | none => .ok []
    | some o => .error ⟨o.start, o.read, o.first, .unexpectedEnd⟩
  | b :: bs =>
    match current with
    | none =>
      if b.toNat < 0x80 then (decodeFrom (place + 1) none bs).map (Char.ofNat b.toNat :: ·)
      else
        match sequence? b with
        | some (more, low, high) =>
          decodeFrom (place + 1) (some ⟨place, b, 1, more, low, high, payload b more⟩) bs
        | none => .error ⟨place, 1, b, .invalidStart⟩
    | some o =>
      -- The byte that does not fit is not part of the fault: a character may begin with it.
      if b.toNat < o.low || o.high < b.toNat then
        .error ⟨o.start, o.read, o.first, .invalidContinuation⟩
      else
        let value := o.value * 64 + (b.toNat - 0x80)
        if o.more = 1 then (decodeFrom (place + 1) none bs).map (Char.ofNat value :: ·)
        else
          decodeFrom (place + 1)
            (some ⟨o.start, o.first, o.read + 1, o.more - 1, 0x80, 0xBF, value⟩) bs

def decode (bytes : List UInt8) : Except Fault (List Char) := decodeFrom 0 none bytes

end DocTrace.Text.Utf8
