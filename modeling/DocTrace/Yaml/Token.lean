import DocTrace.Yaml.Fault

/-!
Tokens of a YAML text. The beginnings and ends of block collections, which have
no sign of their own in the text, are tokens too.
-/

namespace DocTrace.Yaml

inductive Token where
  | documentStart
  | documentEnd
  | versionDirective (major : Nat)
  | tagDirective (handle expansion : List Char)
  | otherDirective
  | blockSequenceStart
  | blockMappingStart
  | blockEnd
  | flowSequenceStart
  | flowSequenceEnd
  | flowMappingStart
  | flowMappingEnd
  | key
  | value
  | blockEntry
  | flowEntry
  | alias (name : List Char)
  | anchor (name : List Char)
  /-- A tag with its handle, or none where it is written out. -/
  | tag (handle : Option (List Char)) (rest : List Char)
  | scalar (text : List Char) (isPlain : Bool)
  | streamEnd
  /-- The place where the text could not be read on. -/
  | fault (cause : Fault)
deriving DecidableEq

def isAllowed (c : Char) : Bool :=
  let n := c.toNat
  n = 9 || n = 10 || n = 13 || (0x20 ≤ n && n ≤ 0x7e) || n = 0x85 || (0xa0 ≤ n && n ≤ 0xd7ff) ||
    (0xe000 ≤ n && n ≤ 0xfffd) || 0x10000 ≤ n

/-- Stands for the end of the text, where no character is allowed to be NUL. -/
def endOfText : Char := '\x00'

def isBreak (c : Char) : Bool :=
  c = '\r' || c = '\n' || c = '\x85' || c = '\u2028' || c = '\u2029'

def isBreakOrEnd (c : Char) : Bool := isBreak c || c = endOfText

def isSpaceOrEnd (c : Char) : Bool := isBreakOrEnd c || c = ' '

def isGapOrEnd (c : Char) : Bool := isSpaceOrEnd c || c = '\t'

/-- Letters of directive names, anchors and tag handles. -/
def isNameLetter (c : Char) : Bool := c.isAlphanum || c = '-' || c = '_'

/-- A place in a text: what follows, and how many characters, lines and columns precede. -/
structure Cursor where
  rest : List Char
  /-- The length of the whole text, which bounds all that is read from here on. -/
  size : Nat := rest.length
  index : Nat := 0
  line : Nat := 0
  column : Nat := 0

namespace Cursor

def look (c : Cursor) (k : Nat) : Char := c.rest.getD k endOfText

def peek (c : Cursor) : Char := c.look 0

def advance (c : Cursor) : Cursor :=
  match c.rest with
  | [] => c
  | x :: rest =>
    if x = '\n' || x = '\x85' || x = '\u2028' || x = '\u2029' ||
        (x = '\r' && rest.head? != some '\n') then
      ⟨rest, c.size, c.index + 1, c.line + 1, 0⟩
    else ⟨rest, c.size, c.index + 1, c.line, if x = '\ufeff' then c.column else c.column + 1⟩

def advanceBy (c : Cursor) : Nat → Cursor
  | 0 => c
  | n + 1 => c.advance.advanceBy n

/-- The characters of a class from here on, and the place after them. -/
def takeWhile (c : Cursor) (p : Char → Bool) : List Char × Cursor :=
  let taken := c.rest.takeWhile p
  (taken, c.advanceBy taken.length)

def skipWhile (c : Cursor) (p : Char → Bool) : Cursor := (c.takeWhile p).2

def skipSpaces (c : Cursor) : Cursor := c.skipWhile (· = ' ')

def skipSpacesTo (c : Cursor) (column : Nat) : Cursor :=
  c.advanceBy (min (c.rest.takeWhile (· = ' ')).length (column - c.column))

/-- One line break, written as LF unless it is a Unicode separator. -/
def lineBreak? (c : Cursor) : Option (Char × Cursor) :=
  match c.rest with
  | '\r' :: '\n' :: _ => some ('\n', c.advanceBy 2)
  | x :: _ =>
    if x = '\r' || x = '\n' || x = '\x85' then some ('\n', c.advance)
    else if x = '\u2028' || x = '\u2029' then some (x, c.advance)
    else none
  | [] => none

/-- Whether three dashes or three dots stand here on their own. -/
def atDocumentMark (c : Cursor) : Bool :=
  (["---".toList, "...".toList].contains (c.rest.take 3)) && isGapOrEnd (c.look 3)

/-- Passes over blanks and a comment up to the end of the line. -/
def restOfLine (c : Cursor) : Except Fault Cursor :=
  let c := c.skipSpaces
  let c := if c.peek = '#' then c.skipWhile (!isBreakOrEnd ·) else c
  if isBreakOrEnd c.peek then .ok ((c.lineBreak?.map (·.2)).getD c) else .error .malformed

end Cursor

end DocTrace.Yaml
