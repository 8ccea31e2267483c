import DocTrace.Json.Basic
import DocTrace.Number.Shortest

/-!
Written forms of JSON documents: on one line without blanks, or indented by two
spaces a level. Characters outside ASCII are escaped or kept, as the output asks.
-/

namespace DocTrace.Json

def hexDigit (n : Nat) : Char := (Nat.toDigits 16 (n % 16)).headD '0'

/-- `\u` and the four digits of a UTF-16 unit. -/
def unitEscape (n : Nat) : List Char :=
  ['\\', 'u', hexDigit (n / 4096), hexDigit (n / 256), hexDigit (n / 16), hexDigit n]

/-- A character outside the first plane is escaped as its two surrogates. -/
def escape (c : Char) : List Char :=
  let n := c.toNat
  if n < 0x10000 then unitEscape n
  else unitEscape (0xD800 + (n - 0x10000) / 1024) ++ unitEscape (0xDC00 + (n - 0x10000) % 1024)

inductive Charset where
  | ascii
  | unicode
deriving DecidableEq

def encodeChar (charset : Charset) (c : Char) : List Char :=
  if c = '"' then ['\\', '"']
  else if c = '\\' then ['\\', '\\']
  else if c = '\n' then ['\\', 'n']
  else if c = '\r' then ['\\', 'r']
  else if c = '\t' then ['\\', 't']
  else if c.toNat = 12 then ['\\', 'f']
  else if c.toNat = 8 then ['\\', 'b']
  else if c.toNat < 32 then escape c
  else if c.toNat < 127 then [c]
  else if charset = .ascii then escape c
  else [c]

def quoted (charset : Charset) (s : String) : List Char :=
  '"' :: s.toList.flatMap (encodeChar charset) ++ ['"']

/-- The text of a document that is neither an array nor an object. -/
def atom (charset : Charset) : Json → List Char
  | .bool true => "true".toList
  | .bool false => "false".toList
  | .int i => (if i < 0 then ['-'] else []) ++ Nat.toDigits 10 i.natAbs
  | .float x => (Binary64.jsonLayout.write x).toList
  | .str s => quoted charset s
  | _ => "null".toList

mutual

def compactChars (charset : Charset) : Json → List Char
  | .array items => '[' :: compactItems charset items ++ [']']
  | .object members => '\x7b' :: compactMembers charset members ++ ['\x7d']
  | j => atom charset j

def compactItems (charset : Charset) : List Json → List Char
  | [] => []
  | [j] => compactChars charset j
  | j :: js => compactChars charset j ++ ',' :: compactItems charset js

def compactMembers (charset : Charset) : List (String × Json) → List Char
  | [] => []
  | [(key, j)] => quoted charset key ++ ':' :: compactChars charset j
  | (key, j) :: ms =>
    quoted charset key ++ ':' :: compactChars charset j ++ ',' :: compactMembers charset ms

end

def compact (j : Json) : String := .ofList (compactChars .ascii j)

def lineAt (level : Nat) : List Char := '\n' :: List.replicate (2 * level) ' '

mutual

def indentedChars (charset : Charset) (level : Nat) : Json → List Char
  | .array [] => ['[', ']']
  | .object [] => ['\x7b', '\x7d']
  | .array (j :: js) => '[' :: indentedItems charset (level + 1) (j :: js) ++ lineAt level ++ [']']
  | .object (m :: ms) =>
    '\x7b' :: indentedMembers charset (level + 1) (m :: ms) ++ lineAt level ++ ['\x7d']
  | j => atom charset j

def indentedItems (charset : Charset) (level : Nat) : List Json → List Char
  | [] => []
  | [j] => lineAt level ++ indentedChars charset level j
  | j :: js => lineAt level ++ indentedChars charset level j ++ ',' :: indentedItems charset level js

def indentedMembers (charset : Charset) (level : Nat) : List (String × Json) → List Char
  | [] => []
  | [(key, j)] => lineAt level ++ quoted charset key ++ ':' :: ' ' :: indentedChars charset level j
  | (key, j) :: ms =>
    lineAt level ++ quoted charset key ++ ':' :: ' ' :: indentedChars charset level j ++
      ',' :: indentedMembers charset level ms

end

def indented (charset : Charset) (j : Json) : String := .ofList (indentedChars charset 0 j)

end DocTrace.Json
