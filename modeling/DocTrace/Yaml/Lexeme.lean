import DocTrace.Text.Utf8
import DocTrace.Yaml.Token

/-!
Single lexemes of YAML: directives, anchors, tags, and scalars in their four
styles. Each reader starts at the sign that opens its lexeme and gives the place
after it.
-/

namespace DocTrace.Yaml.Lexeme

def name (c : Cursor) : Except Fault (List Char × Cursor) :=
  match c.takeWhile isNameLetter with
  | ([], _) => .error .malformed
  | (text, c) => .ok (text, c)

def anchor (c : Cursor) : Except Fault (List Char × Cursor) := do
  let (text, c) ← name c.advance
  if isGapOrEnd c.peek || "?:,]\x7d%@\x60".toList.contains c.peek then return (text, c)
  else .error .malformed

/-! ### Tags -/

def isHex (c : Char) : Bool := c.isDigit || ('a' ≤ c && c ≤ 'f') || ('A' ≤ c && c ≤ 'F')

def hexValue (s : List Char) : Nat :=
  s.foldl (fun n c =>
    n * 16 + (if c.isDigit then c.toNat - '0'.toNat else c.toLower.toNat - 'a'.toNat + 10)) 0

def isUriChar (c : Char) : Bool := c.isAlphanum || "-;/?:@&=+$,_.!~*'()[]".toList.contains c

/-- The bytes of a row of percent escapes. -/
def escapedBytes : List Char → Except Fault (List UInt8 × Nat)
  | '%' :: a :: b :: rest =>
    if isHex a && isHex b then
      (escapedBytes rest).map fun (bytes, n) => ((hexValue [a, b]).toUInt8 :: bytes, n + 3)
    else .error .malformed
  | '%' :: _ => .error .malformed
  | _ => .ok ([], 0)

/-- The characters of a tag, with percent escapes read as UTF-8. -/
def uriChars (fuel : Nat) (c : Cursor) : Except Fault (List Char × Cursor) :=
  match fuel with
  | 0 => .ok ([], c)
  | fuel + 1 =>
    let (plain, c) := c.takeWhile isUriChar
    if c.peek = '%' then do
      let (bytes, count) ← escapedBytes c.rest
      match Text.Utf8.decode bytes with
      | .error _ => .error .malformed
      | .ok text =>
        let (more, c) ← uriChars fuel (c.advanceBy count)
        return (plain ++ text ++ more, c)
    else .ok (plain, c)

def uri (c : Cursor) : Except Fault (List Char × Cursor) := do
  let (text, after) ← uriChars (c.size + 1) c
  if after.index = c.index then .error .malformed else return (text, after)

/-- A handle between exclamation marks, or a single mark before a space. -/
def tagHandle (c : Cursor) : Except Fault (List Char × Cursor) :=
  if c.peek ≠ '!' then .error .malformed
  else
    let first := c.advance
    if first.peek = ' ' then .ok (['!'], first)
    else
      let (text, last) := first.takeWhile isNameLetter
      if last.peek = '!' then .ok ('!' :: text ++ ['!'], last.advance) else .error .malformed

def tag (c : Cursor) : Except Fault (Token × Cursor) := do
  let next := c.look 1
  let (token, c) ←
    if next = '<' then do
      let (text, c) ← uri (c.advanceBy 2)
      if c.peek = '>' then pure (Token.tag none text, c.advance) else .error .malformed
    else if isGapOrEnd next then pure (Token.tag none ['!'], c.advance)
    else do
      let word := (c.rest.drop 1).takeWhile (!isSpaceOrEnd ·)
      let (handle, c) ← if word.contains '!' then tagHandle c else pure (['!'], c.advance)
      let (text, c) ← uri c
      pure (Token.tag (some handle) text, c)
  if isSpaceOrEnd c.peek then return (token, c) else .error .malformed

/-! ### Directives -/

/-- The most digits of a number in a directive. -/
def maxDigits : Nat := 4300

def number (c : Cursor) : Except Fault (Nat × Cursor) :=
  match c.takeWhile Char.isDigit with
  | ([], _) => .error .malformed
  | (text, c) =>
    if text.length > maxDigits then .error (.integerTooLong text.length)
    else .ok (text.foldl (fun n d => n * 10 + (d.toNat - '0'.toNat)) 0, c)

def versionDirective (c : Cursor) : Except Fault (Token × Cursor) := do
  let (major, c) ← number c.skipSpaces
  if c.peek ≠ '.' then .error .malformed
  let (_, c) ← number c.advance
  if isSpaceOrEnd c.peek then return (.versionDirective major, c) else .error .malformed

def tagDirective (c : Cursor) : Except Fault (Token × Cursor) := do
  let (handle, c) ← tagHandle c.skipSpaces
  if c.peek ≠ ' ' then .error .malformed
  let (expansion, c) ← uri c.skipSpaces
  if isSpaceOrEnd c.peek then return (.tagDirective handle expansion, c) else .error .malformed

def directive (c : Cursor) : Except Fault (Token × Cursor) := do
  let (word, c) ← name c.advance
  if !isSpaceOrEnd c.peek then .error .malformed
  let (token, c) ←
    if word = "YAML".toList then versionDirective c
    else if word = "TAG".toList then tagDirective c
    else pure (Token.otherDirective, c.skipWhile (!isBreakOrEnd ·))
  let c ← c.restOfLine
  return (token, c)

/-! ### Block scalars -/

/-- What becomes of the line breaks at the end: all but one are dropped, all, or none. -/
inductive Chomping where
  | clip
  | strip
  | keep
deriving DecidableEq

def chomping? (c : Char) : Option Chomping :=
  if c = '+' then some .keep else if c = '-' then some .strip else none

def increment? (c : Char) : Option Nat := if c.isDigit then some (c.toNat - '0'.toNat) else none

def blockHeader (c : Cursor) : Except Fault ((Chomping × Option Nat) × Cursor) := do
  let (chomping, increment, c) :=
    match chomping? c.peek with
    | some chomping =>
      match increment? c.advance.peek with
      | some n => (chomping, some n, c.advanceBy 2)
      | none => (chomping, none, c.advance)
    | none =>
      match increment? c.peek with
      | some n =>
        match chomping? c.advance.peek with
        | some chomping => (chomping, some n, c.advanceBy 2)
        | none => (.clip, some n, c.advance)
      | none => (.clip, none, c)
  if increment = some 0 || !isSpaceOrEnd c.peek then .error .malformed
  return ((chomping, increment), c)

/-- Blank lines before the first line of text: their breaks and the deepest column reached. -/
def blockIndentation (fuel : Nat) (deepest : Nat) (c : Cursor) : List Char × Nat × Cursor :=
  match fuel with
  | 0 => ([], deepest, c)
  | fuel + 1 =>
    if c.peek = ' ' then blockIndentation fuel (max deepest (c.column + 1)) c.advance
    else
      match c.lineBreak? with
      | some (x, c) =>
        let (breaks, deepest, c) := blockIndentation fuel deepest c
        (x :: breaks, deepest, c)
      | none => ([], deepest, c)

/-- Blank lines between lines of text that are indented to a column. -/
def blockBreaks (fuel : Nat) (indent : Nat) (c : Cursor) : List Char × Cursor :=
  match fuel with
  | 0 => ([], c)
  | fuel + 1 =>
    let c := c.skipSpacesTo indent
    match c.lineBreak? with
    | some (x, c) =>
      let (breaks, c) := blockBreaks fuel indent c
      (x :: breaks, c)
    | none => ([], c)

/-- Lines of text, from one that starts at the indentation. `breaks` are the
line breaks that precede it. -/
def blockLines (fuel : Nat) (folded : Bool) (chomping : Chomping) (indent : Nat)
    (lineBreak breaks : List Char) (c : Cursor) : List Char × Cursor :=
  let tail := (if chomping = .strip then [] else lineBreak) ++ (if chomping = .keep then breaks else [])
  match fuel with
  | 0 => (tail, c)
  | fuel + 1 =>
    if c.column = indent && c.peek ≠ endOfText then
      let flush := c.peek ≠ ' ' && c.peek ≠ '\t'
      let (text, c) := c.takeWhile (!isBreakOrEnd ·)
      let (lineBreak, c) :=
        match c.lineBreak? with
        | some (x, c) => ([x], c)
        | none => ([], c)
      let (next, c) := blockBreaks (c.size + 1) indent c
      let join :=
        if c.column = indent && c.peek ≠ endOfText then
          if folded && lineBreak = ['\n'] && flush && c.peek ≠ ' ' && c.peek ≠ '\t' then
            if next.isEmpty then [' '] else []
          else lineBreak
        else []
      let (more, c) := blockLines fuel folded chomping indent lineBreak next c
      (breaks ++ text ++ join ++ more, c)
    else (tail, c)

/-- A literal or folded scalar below a parent at a column. -/
def blockScalar (folded : Bool) (parent : Int) (c : Cursor) : Except Fault (List Char × Cursor) := do
  let ((chomping, increment), c) ← blockHeader c.advance
  let c ← c.restOfLine
  let least := max (parent + 1).toNat 1
  let fuel := c.size + 1
  let (breaks, indent, c) :=
    match increment with
    | some n =>
      -- A written width counts from the parent on.
      let indent := least + n - 1
      let (breaks, c) := blockBreaks fuel indent c
      (breaks, indent, c)
    | none =>
      -- Without one the deepest of the blank lines counts as well as the first line of text.
      let (breaks, deepest, c) := blockIndentation fuel 0 c
      (breaks, max least deepest, c)
  return blockLines fuel folded chomping indent [] breaks c

/-! ### Quoted scalars -/

def simpleEscapes : List (Char × Char) :=
  [('0', '\x00'), ('a', '\x07'), ('b', '\x08'), ('t', '\t'), ('\t', '\t'), ('n', '\n'),
    ('v', '\x0b'), ('f', '\x0c'), ('r', '\r'), ('e', '\x1b'), (' ', ' '), ('"', '"'),
    ('\\', '\\'), ('/', '/'), ('N', '\x85'), ('_', '\xa0'), ('L', '\u2028'), ('P', '\u2029')]

def hexEscapes : List (Char × Nat) := [('x', 2), ('u', 4), ('U', 8)]

/-- Line breaks inside quotes, with the blanks that start each line. -/
def quotedBreaks (fuel : Nat) (c : Cursor) : Except Fault (List Char × Cursor) :=
  match fuel with
  | 0 => .ok ([], c)
  | fuel + 1 =>
    if c.atDocumentMark then .error .malformed
    else
      let c := c.skipWhile fun x => x = ' ' || x = '\t'
      match c.lineBreak? with
      | some (x, c) => (quotedBreaks fuel c).map fun (breaks, c) => (x :: breaks, c)
      | none => .ok ([], c)

/-- A blank run inside quotes; one with a line break is folded. -/
def quotedSpaces (c : Cursor) : Except Fault (List Char × Cursor) := do
  let (blanks, c) := c.takeWhile fun x => x = ' ' || x = '\t'
  if c.peek = endOfText then .error .malformed
  match c.lineBreak? with
  | some (x, c) =>
    let (breaks, c) ← quotedBreaks (c.size + 1) c
    -- One line feed becomes a blank; of several the first is dropped.
    return ((if x ≠ '\n' then [x] else if breaks.isEmpty then [' '] else []) ++ breaks, c)
  | none => return (blanks, c)

/-- The character of a code point; one that is none is an error of its own. -/
def codePoint (n : Nat) : Except Fault Char :=
  if n < 0x110000 then .ok (if h : n.isValidChar then Char.ofNatAux n h else '\ufffd')
  else .error (if n < 0x80000000 then .codePoint else .codePointTooLong)

def escape (c : Cursor) : Except Fault (List Char × Cursor) :=
  match simpleEscapes.lookup c.peek with
  | some x => .ok ([x], c.advance)
  | none =>
    match hexEscapes.lookup c.peek with
    | some width =>
      let digits := c.advance.rest.take width
      if digits.length = width && digits.all isHex then
        (codePoint (hexValue digits)).map fun x => ([x], c.advanceBy (width + 1))
      else .error .malformed
    | none =>
      match c.lineBreak? with
      | some (_, c) => quotedBreaks (c.size + 1) c
      | none => .error .malformed

def quotedText (fuel : Nat) (quote : Char) (c : Cursor) : Except Fault (List Char × Cursor) :=
  match fuel with
  | 0 => .error .malformed
  | fuel + 1 =>
    let x := c.peek
    if x = quote then
      if quote = '\'' && c.look 1 = '\'' then
        (quotedText fuel quote (c.advanceBy 2)).map fun (text, c) => ('\'' :: text, c)
      else .ok ([], c.advance)
    else do
      let (chunk, c) ←
        if isGapOrEnd x then quotedSpaces c
        else if x = '\\' && quote = '"' then escape c.advance
        else pure ([x], c.advance)
      let (text, c) ← quotedText fuel quote c
      return (chunk ++ text, c)

def quotedScalar (c : Cursor) : Except Fault (List Char × Cursor) :=
  quotedText (c.size + 1) c.peek c.advance

/-! ### Plain scalars -/

def isFlowSign (c : Char) : Bool := ",[]\x7b\x7d".toList.contains c

def stopsPlain (inFlow : Bool) (s : List Char) : Bool :=
  match s with
  | [] => true
  | c :: rest =>
    isGapOrEnd c ||
      (c = ':' && (isGapOrEnd (rest.headD endOfText) ||
        (inFlow && isFlowSign (rest.headD endOfText)))) ||
      (inFlow && (c = '?' || isFlowSign c))

def plainWord (inFlow : Bool) : List Char → List Char
  | [] => []
  | c :: rest => if stopsPlain inFlow (c :: rest) then [] else c :: plainWord inFlow rest

/-- Line breaks inside a plain scalar. None stands for a document mark. -/
def plainBreaks (fuel : Nat) (c : Cursor) : Option (List Char) × Cursor :=
  match fuel with
  | 0 => (some [], c)
  | fuel + 1 =>
    if c.peek = ' ' then plainBreaks fuel c.advance
    else
      match c.lineBreak? with
      | some (x, c) =>
        if c.atDocumentMark then (none, c)
        else
          let (breaks, c) := plainBreaks fuel c
          (breaks.map (x :: ·), c)
      | none => (some [], c)

/-- The blanks after a word, folded, and whether a line ended in them. -/
def plainSpaces (c : Cursor) : List Char × Bool × Cursor :=
  let (blanks, c) := c.takeWhile (· = ' ')
  match c.lineBreak? with
  | some (x, c) =>
    if c.atDocumentMark then ([], true, c)
    else
      match plainBreaks (c.size + 1) c with
      | (some breaks, c) =>
        ((if x ≠ '\n' then [x] else if breaks.isEmpty then [' '] else []) ++ breaks, true, c)
      | (none, c) => ([], true, c)
  | none => (blanks, false, c)

/-- Words of a plain scalar. The flag of the result tells whether a line ended
after the last word. -/
def plainWords (fuel : Nat) (inFlow : Bool) (indent : Int) (spaces : List Char) (lineEnded : Bool)
    (c : Cursor) : List Char × Bool × Cursor :=
  match fuel with
  | 0 => ([], lineEnded, c)
  | fuel + 1 =>
    let word := plainWord inFlow c.rest
    if c.peek = '#' || word.isEmpty then ([], lineEnded, c)
    else
      let (next, ended, after) := plainSpaces (c.advanceBy word.length)
      if next.isEmpty || after.peek = '#' || (!inFlow && (after.column : Int) < indent) then
        (spaces ++ word, ended, after)
      else
        let (more, ended, after) := plainWords fuel inFlow indent next ended after
        (spaces ++ word ++ more, ended, after)

def plainScalar (inFlow : Bool) (parent : Int) (c : Cursor) : List Char × Bool × Cursor :=
  plainWords (c.size + 1) inFlow (parent + 1) [] false c

end DocTrace.Yaml.Lexeme
