/-!
Bytes written in base 64. Characters outside of the alphabet are passed over,
and reading stops at the padding that completes a group of four.
-/

namespace DocTrace.Text.Base64

def value? (c : Char) : Option Nat :=
  if 'A' ≤ c && c ≤ 'Z' then some (c.toNat - 'A'.toNat)
  else if 'a' ≤ c && c ≤ 'z' then some (c.toNat - 'a'.toNat + 26)
  else if '0' ≤ c && c ≤ '9' then some (c.toNat - '0'.toNat + 52)
  else if c = '+' then some 62
  else if c = '/' then some 63
  else none

/-- `count` characters of the current group are read, the bits of the last one
that are still to be used are in `left`, and `pads` padding signs precede. -/
def decodeFrom (count left pads : Nat) : List Char → Option (List UInt8)
  | [] => if count = 0 then some [] else none
  | c :: s =>
    if c = '=' then
      if 2 ≤ count then
        if 4 ≤ count + pads + 1 then some [] else decodeFrom count left (pads + 1) s
      else decodeFrom count left pads s
    else
      match value? c with
      | none => decodeFrom count left pads s
      | some v =>
        match count with
        | 0 => decodeFrom 1 v 0 s
        | 1 => (decodeFrom 2 (v % 16) 0 s).map ((left * 4 + v / 16).toUInt8 :: ·)
        | 2 => (decodeFrom 3 (v % 4) 0 s).map ((left * 16 + v / 4).toUInt8 :: ·)
        | _ => (decodeFrom 0 0 0 s).map ((left * 64 + v).toUInt8 :: ·)

def decode (s : List Char) : Option (List UInt8) := decodeFrom 0 0 0 s

end DocTrace.Text.Base64
