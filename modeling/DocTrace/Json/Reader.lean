import DocTrace.Json.Basic
import DocTrace.Number.Reading

/-!
Reading JSON. The reader is a machine that takes one character at a time: it
holds the open arrays and objects and what may come next. `NaN`, `Infinity` and
`-Infinity` count as numbers, and of two members with one name the later value
stays in the earlier place.
-/

namespace DocTrace.Json

inductive Fault where
  | malformed
  | integerTooLong
  | tooDeep
deriving DecidableEq

/-- An open array with its items so far, or an open object with its members so
far and the name of the member being read. -/
inductive Frame where
  | array (items : List Json)
  | object (members : Table String Json) (key : String)

/-- Where a string literal stands: outside of an escape, after a backslash, or
inside `\u` with the digits so far. -/
inductive EscapeState where
  | plain
  | backslash
  | digits (count value : Nat)

inductive Phase where
  /-- A value, or the end of an array that is still empty. -/
  | value (mayClose : Bool)
  /-- A member name, or the end of an object that is still empty. -/
  | name (mayClose : Bool)
  | colon
  /-- A comma or the end of what is open. -/
  | next
  /-- Inside a string, with its characters reversed and a high surrogate that waits for its other half. -/
  | string (isName : Bool) (chars : List Char) (high : Option Nat) (escape : EscapeState)
  /-- Inside a number or a word, with its characters reversed. -/
  | atom (chars : List Char)
  | done (result : Json)

structure State where
  stack : List Frame := []
  phase : Phase := .value false

/-- The most arrays and objects that may be open at once. -/
def maxDepth : Nat := 985

def isSpace (c : Char) : Bool := c = ' ' || c = '\t' || c = '\n' || c = '\r'

def isAtomChar (c : Char) : Bool := c.isAlphanum || c = '+' || c = '-' || c = '.'

def State.supply (s : State) (j : Json) : State :=
  match s.stack with
  | [] => { s with phase := .done j }
  | .array items :: rest => ⟨.array (items ++ [j]) :: rest, .next⟩
  | .object members key :: rest =>
    ⟨.object (members.put key j) key :: rest, .next⟩

def State.close (s : State) (bracket : Char) : Except Fault State :=
  match s.stack with
  | .array items :: rest =>
    if bracket = ']' then .ok (State.supply ⟨rest, .next⟩ (.array items)) else .error .malformed
  | .object members _ :: rest =>
    if bracket = '\x7d' then .ok (State.supply ⟨rest, .next⟩ (.object members.entries))
    else .error .malformed
  | [] => .error .malformed

/-- A natural number at the beginning, and the rest. No digit follows a zero that stands first. -/
def wholePart? (s : List Char) : Option (List Char × List Char) :=
  match s with
  | '0' :: rest => some (['0'], rest)
  | _ => Text.span1? Char.isDigit s

/-- An integer at the beginning, with an optional minus sign, and the rest. -/
def integerPart? (s : List Char) : Option (List Char × List Char) :=
  match s with
  | '-' :: rest => (wholePart? rest).map fun cut => ('-' :: cut.1, cut.2)
  | _ => wholePart? s

/-- A point with digits behind it, at the beginning, and the rest. -/
def fractionPart (s : List Char) : List Char × List Char :=
  match s with
  | '.' :: rest => ((Text.span1? Char.isDigit rest).map fun cut => ('.' :: cut.1, cut.2)).getD ([], s)
  | _ => ([], s)

def signPart : List Char → List Char × List Char
  | '-' :: rest => (['-'], rest)
  | '+' :: rest => (['+'], rest)
  | rest => ([], rest)

/-- An exponent with digits at the beginning, and the rest. -/
def exponentPart (s : List Char) : List Char × List Char :=
  match s with
  | c :: rest =>
    if c = 'e' || c = 'E' then
      let (sign, rest) := signPart rest
      ((Text.span1? Char.isDigit rest).map fun cut => (c :: sign ++ cut.1, cut.2)).getD ([], s)
    else ([], s)
  | [] => ([], s)

/-- The longest number at the beginning, which is converted before the rest is looked at: an
integer that is too long is told before what follows it. -/
def readNumber (s : List Char) : Except Fault Json :=
  match integerPart? s with
  | none => .error .malformed
  | some (whole, rest) =>
    let (fraction, rest) := fractionPart rest
    let (power, rest) := exponentPart rest
    let value : Except Fault Json :=
      if fraction.isEmpty && power.isEmpty then
        match Number.readInt 10 whole with
        | .ok i => .ok (.int i)
        | .error .tooLong => .error .integerTooLong
        | .error .malformed => .error .malformed
      else
        match Number.readFloat? (whole ++ fraction ++ power) with
        | some x => .ok (.float x)
        | none => .error .malformed
    value.bind fun j => if rest.isEmpty then .ok j else .error .malformed

def readAtom (s : List Char) : Except Fault Json :=
  match String.ofList s with
  | "null" => .ok .null
  | "true" => .ok (.bool true)
  | "false" => .ok (.bool false)
  | "NaN" => .ok (.float .nan)
  | "Infinity" => .ok (.float (.infinite false))
  | "-Infinity" => .ok (.float (.infinite true))
  | _ => readNumber s

def push (s : State) (frame : Frame) (phase : Phase) : Except Fault State :=
  if s.stack.length < maxDepth then .ok ⟨frame :: s.stack, phase⟩ else .error .tooDeep

/-- A high surrogate that found no other half stands for the replacement character. -/
def settle (chars : List Char) (high : Option Nat) : List Char :=
  if high.isSome then '\ufffd' :: chars else chars

def unitPhase (isName : Bool) (chars : List Char) (high : Option Nat) (n : Nat) : Phase :=
  if 0xDC00 ≤ n && n < 0xE000 then
    match high with
    | some h =>
      .string isName (Char.ofNat (0x10000 + (h - 0xD800) * 1024 + (n - 0xDC00)) :: chars) none .plain
    | none => .string isName ('\ufffd' :: chars) none .plain
  else if 0xD800 ≤ n && n < 0xDC00 then .string isName (settle chars high) (some n) .plain
  else .string isName (Char.ofNat n :: settle chars high) none .plain

def simpleEscape? (c : Char) : Option Char :=
  if c = '"' || c = '\\' || c = '/' then some c
  else if c = 'n' then some '\n'
  else if c = 'r' then some '\r'
  else if c = 't' then some '\t'
  else if c = 'b' then some '\x08'
  else if c = 'f' then some '\x0c'
  else none

def hexValue? (c : Char) : Option Nat :=
  if c.isDigit then some (c.toNat - '0'.toNat)
  else if 'a' ≤ c && c ≤ 'f' then some (c.toNat - 'a'.toNat + 10)
  else if 'A' ≤ c && c ≤ 'F' then some (c.toNat - 'A'.toNat + 10)
  else none

def stepString (s : State) (isName : Bool) (chars : List Char) (high : Option Nat)
    (escape : EscapeState) (c : Char) : Except Fault State :=
  match escape with
  | .plain =>
    -- A first half that still waits for a second one is settled here.
    if c = '"' then
      let text := String.ofList (settle chars high).reverse
      if isName then
        match s.stack with
        | .object members _ :: rest => .ok ⟨.object members text :: rest, .colon⟩
        | _ => .error .malformed
      else .ok (s.supply (.str text))
    else if c = '\\' then .ok { s with phase := .string isName chars high .backslash }
    else if c.toNat < 32 then .error .malformed
    else .ok { s with phase := .string isName (c :: settle chars high) none .plain }
  | .backslash =>
    if c = 'u' then .ok { s with phase := .string isName chars high (.digits 0 0) }
    else
      match simpleEscape? c with
      | some d => .ok { s with phase := .string isName (d :: settle chars high) none .plain }
      | none => .error .malformed
  | .digits count value =>
    match hexValue? c with
    | none => .error .malformed
    | some d =>
      if count = 3 then .ok { s with phase := unitPhase isName chars high (value * 16 + d) }
      else .ok { s with phase := .string isName chars high (.digits (count + 1) (value * 16 + d)) }

def stepBetween (s : State) (c : Char) : Except Fault State :=
  if isSpace c then .ok s
  else
    match s.phase with
    | .value mayClose =>
      if c = '"' then .ok { s with phase := .string false [] none .plain }
      else if c = '[' then push s (.array []) (.value true)
      else if c = '\x7b' then push s (.object {} "") (.name true)
      -- Only an array without items closes here: behind a comma a value is due.
      else if c = ']' && mayClose then s.close c
      else if isAtomChar c then .ok { s with phase := .atom [c] }
      else .error .malformed
    | .name mayClose =>
      if c = '"' then .ok { s with phase := .string true [] none .plain }
      else if c = '\x7d' && mayClose then s.close c
      else .error .malformed
    | .colon => if c = ':' then .ok { s with phase := .value false } else .error .malformed
    | .next =>
      if c = ',' then
        match s.stack with
        | .array _ :: _ => .ok { s with phase := .value false }
        | .object .. :: _ => .ok { s with phase := .name false }
        | [] => .error .malformed
      else s.close c
    | _ => .error .malformed

def step (s : State) (c : Char) : Except Fault State :=
  match s.phase with
  | .string isName chars high escape => stepString s isName chars high escape c
  | .atom chars =>
    if isAtomChar c then .ok { s with phase := .atom (c :: chars) }
    else (readAtom chars.reverse).bind fun j => stepBetween (s.supply j) c
  | _ => stepBetween s c

def finish (s : State) : Except Fault Json :=
  match s.phase, s.stack with
  | .done j, _ => .ok j
  | .atom chars, [] => readAtom chars.reverse
  -- A fault of the atom itself comes before the missing bracket.
  | .atom chars, _ => (readAtom chars.reverse).bind fun _ => .error .malformed
  | _, _ => .error .malformed

def run : State → List Char → Except Fault State
  | s, [] => .ok s
  | s, c :: cs =>
    match step s c with
    | .ok next => run next cs
    | .error e => .error e

def read (s : String) : Except Fault Json := (run {} s.toList).bind finish

end DocTrace.Json
