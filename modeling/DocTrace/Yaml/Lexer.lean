import DocTrace.Yaml.Lexeme

/-!
The tokens of a YAML text. Indentation opens and closes block collections, and a
colon may turn out that an earlier token was a key: such places are remembered,
and the key token is put before the token that stood there.
-/

namespace DocTrace.Yaml

/-- A token that becomes a key if a colon follows it on its line. -/
structure PossibleKey where
  position : Nat
  required : Bool
  index : Nat
  line : Nat
  column : Nat

/-- What goes before a token once it is known to be a key. -/
inductive KeyMark where
  | none
  | key
  | firstKey
deriving DecidableEq

structure Lexer where
  cursor : Cursor
  /-- The tokens so far, the last one first, and how many there are. -/
  tokens : List (Token × KeyMark) := []
  count : Nat := 0
  flowLevel : Nat := 0
  indent : Int := -1
  indents : List Int := []
  keyAllowed : Bool := true
  /-- At most one possible key for each level of flow collections. -/
  keys : List (Nat × PossibleKey) := []
  isDone : Bool := false

namespace Lexer

def emit (l : Lexer) (t : Token) : Lexer :=
  { l with tokens := (t, .none) :: l.tokens, count := l.count + 1 }

/-- Closes the block collections that are indented beyond a column. -/
def unwindFrom (column : Int) (l : Lexer) : List Int → Lexer
  | [] => l
  | outer :: rest =>
    if column < l.indent then
      unwindFrom column (emit { l with indent := outer, indents := rest } .blockEnd) rest
    else l

def unwind (l : Lexer) (column : Int) : Lexer :=
  if l.flowLevel = 0 then unwindFrom column l l.indents else l

/-- Whether a block collection begins at a column, and the state in it. -/
def deepen (l : Lexer) (column : Nat) : Bool × Lexer :=
  if l.indent < column then (true, { l with indent := column, indents := l.indent :: l.indents })
  else (false, l)

def key? (l : Lexer) : Option PossibleKey := l.keys.lookup l.flowLevel

def forgetKey (l : Lexer) : Lexer :=
  { l with keys := l.keys.filter fun k => k.1 ≠ l.flowLevel }

/-- Gives up the possible key at this level; one that had to be a key is a fault. -/
def dropKey (l : Lexer) : Except Fault Lexer :=
  match l.key? with
  | some key => if key.required then .error .malformed else .ok l.forgetKey
  | none => .ok l

/-- Gives up the possible keys that a colon can no longer reach. -/
def dropStaleKeys (l : Lexer) : Except Fault Lexer :=
  let isStale (k : PossibleKey) : Bool :=
    k.line ≠ l.cursor.line || l.cursor.index - k.index > 1024
  if l.keys.any fun k => isStale k.2 && k.2.required then .error .malformed
  else .ok { l with keys := l.keys.filter fun k => !isStale k.2 }

def noteKey (l : Lexer) : Except Fault Lexer :=
  if l.keyAllowed then do
    let l ← l.dropKey
    let key : PossibleKey :=
      { position := l.count
        required := l.flowLevel = 0 && l.indent = l.cursor.column
        index := l.cursor.index
        line := l.cursor.line
        column := l.cursor.column }
    return { l with keys := (l.flowLevel, key) :: l.keys }
  else .ok l

def skipGap (fuel : Nat) (l : Lexer) : Lexer :=
  match fuel with
  | 0 => l
  | fuel + 1 =>
    let c := l.cursor.skipSpaces
    let c := if c.peek = '#' then c.skipWhile (!isBreakOrEnd ·) else c
    match c.lineBreak? with
    | some (_, c) =>
      skipGap fuel { l with cursor := c, keyAllowed := l.keyAllowed || l.flowLevel = 0 }
    | none => { l with cursor := c }

def skipMark (l : Lexer) : Lexer :=
  if l.cursor.index = 0 && l.cursor.peek = '\ufeff' then { l with cursor := l.cursor.advance } else l

def take (l : Lexer) (t : Token) (n : Nat) : Lexer :=
  { l with cursor := l.cursor.advanceBy n }.emit t

/-- Leaves all block collections, as document marks and directives do. -/
def leaveBlocks (l : Lexer) : Except Fault Lexer := do
  let l ← (l.unwind (-1)).dropKey
  return { l with keyAllowed := false }

def flowStart (l : Lexer) (t : Token) : Except Fault Lexer := do
  let l ← l.noteKey
  return { l with flowLevel := l.flowLevel + 1, keyAllowed := true }.take t 1

def flowEnd (l : Lexer) (t : Token) : Except Fault Lexer := do
  let l ← l.dropKey
  if l.flowLevel = 0 then .error .malformed
  return { l with flowLevel := l.flowLevel - 1, keyAllowed := false }.take t 1

def flowEntry (l : Lexer) : Except Fault Lexer := do
  let l ← { l with keyAllowed := true }.dropKey
  return l.take .flowEntry 1

/-- Opens a block collection at the current column, where one may begin. -/
def openBlock (l : Lexer) (start : Token) : Except Fault Lexer :=
  if l.flowLevel ≠ 0 then .ok l
  else if !l.keyAllowed then .error .malformed
  else
    let (opened, l) := l.deepen l.cursor.column
    .ok (if opened then l.emit start else l)

def blockEntry (l : Lexer) : Except Fault Lexer := do
  let l ← l.openBlock .blockSequenceStart
  let l ← { l with keyAllowed := true }.dropKey
  return l.take .blockEntry 1

def explicitKey (l : Lexer) : Except Fault Lexer := do
  let l ← l.openBlock .blockMappingStart
  let l ← { l with keyAllowed := l.flowLevel = 0 }.dropKey
  return l.take .key 1

def mark (l : Lexer) (position : Nat) (m : KeyMark) : Lexer :=
  { l with tokens := l.tokens.modify (l.count - 1 - position) fun t => (t.1, m) }

def value (l : Lexer) : Except Fault Lexer :=
  match l.key? with
  | some key =>
    let l := l.forgetKey
    let (opened, l) := if l.flowLevel = 0 then l.deepen key.column else (false, l)
    -- The token has been emitted already; its mark puts the key before it in the end.
    let l := l.mark key.position (if opened then .firstKey else .key)
    .ok ({ l with keyAllowed := false }.take .value 1)
  | none => do
    let l ← l.openBlock .blockMappingStart
    let l ← { l with keyAllowed := l.flowLevel = 0 }.dropKey
    return l.take .value 1

def keyLike (l : Lexer) (read : Cursor → Except Fault (Token × Cursor)) : Except Fault Lexer := do
  let l ← l.noteKey
  let (t, c) ← read l.cursor
  return { l with cursor := c, keyAllowed := false }.emit t

def anchorLike (l : Lexer) (make : List Char → Token) : Except Fault Lexer :=
  l.keyLike fun c => (Lexeme.anchor c).map fun (name, c) => (make name, c)

def blockScalar (l : Lexer) (folded : Bool) : Except Fault Lexer := do
  let l ← { l with keyAllowed := true }.dropKey
  let (text, c) ← Lexeme.blockScalar folded l.indent l.cursor
  return { l with cursor := c }.emit (.scalar text false)

def plain (l : Lexer) : Except Fault Lexer := do
  let l ← l.noteKey
  let (text, lineEnded, c) := Lexeme.plainScalar (l.flowLevel ≠ 0) l.indent l.cursor
  return { l with cursor := c, keyAllowed := lineEnded }.emit (.scalar text true)

def startsPlain (l : Lexer) : Bool :=
  let c := l.cursor.peek
  let next := l.cursor.look 1
  !(isGapOrEnd c || "-?:,[]\x7b\x7d#&*!|>'\"%@\x60".toList.contains c) ||
    (!isGapOrEnd next && (c = '-' || (l.flowLevel = 0 && (c = '?' || c = ':'))))

def fetch (l : Lexer) : Except Fault Lexer :=
  let c := l.cursor.peek
  let next := l.cursor.look 1
  let inFlow := l.flowLevel ≠ 0
  if c = '%' && l.cursor.column = 0 then do
    let l ← l.leaveBlocks
    let (t, c) ← Lexeme.directive l.cursor
    return { l with cursor := c }.emit t
  else if c = '-' && l.cursor.column = 0 && l.cursor.atDocumentMark then
    (l.leaveBlocks).map (·.take .documentStart 3)
  else if c = '.' && l.cursor.column = 0 && l.cursor.atDocumentMark then
    (l.leaveBlocks).map (·.take .documentEnd 3)
  else if c = '[' then l.flowStart .flowSequenceStart
  else if c = '\x7b' then l.flowStart .flowMappingStart
  else if c = ']' then l.flowEnd .flowSequenceEnd
  else if c = '\x7d' then l.flowEnd .flowMappingEnd
  else if c = ',' then l.flowEntry
  else if c = '-' && isGapOrEnd next then l.blockEntry
  else if c = '?' && (inFlow || isGapOrEnd next) then l.explicitKey
  else if c = ':' && (inFlow || isGapOrEnd next) then l.value
  else if c = '*' then l.anchorLike .alias
  else if c = '&' then l.anchorLike .anchor
  else if c = '!' then l.keyLike Lexeme.tag
  else if c = '|' && !inFlow then l.blockScalar false
  else if c = '>' && !inFlow then l.blockScalar true
  else if c = '\'' || c = '"' then
    l.keyLike fun c => (Lexeme.quotedScalar c).map fun (text, c) => (.scalar text false, c)
  else if l.startsPlain then l.plain
  else .error .malformed

/-- One more token, after the gap and the ends of block collections before it. -/
def next (l : Lexer) : Except Fault Lexer := do
  let l ← (l.skipMark.skipGap (l.cursor.size + 1)).dropStaleKeys
  let l := l.unwind l.cursor.column
  if l.cursor.rest.isEmpty then
    let l ← (l.unwind (-1)).dropKey
    return { l.emit .streamEnd with isDone := true }
  else l.fetch

/-- The tokens that are sure before the next one is read. Those from the first possible key on
are not, because a key token may still go before it. -/
def settled (l : Lexer) : Nat :=
  let keys := (l.dropStaleKeys.toOption.getD l).keys
  keys.foldl (fun n k => min n k.2.position) l.count

/-- Ends the tokens at a place where the text cannot be read on. -/
def breakOff (l : Lexer) (cause : Fault) : Lexer :=
  { l with tokens := l.tokens.drop (l.count - l.settled), count := l.settled }.emit (.fault cause)

/-- Emits tokens until the text ends or cannot be read on. -/
def run (fuel : Nat) (l : Lexer) : Lexer :=
  match fuel with
  | 0 => l.breakOff .malformed
  | fuel + 1 =>
    match l.next with
    | .ok l => if l.isDone then l else run fuel l
    | .error e => l.breakOff e

/-- The tokens in the order of the text, keys put in their places. -/
def toTokens (l : Lexer) : List Token :=
  l.tokens.reverse.flatMap fun (t, m) =>
    match m with
    | .none => [t]
    | .key => [.key, t]
    | .firstKey => [.blockMappingStart, .key, t]

end Lexer

def Token.ofText (s : List Char) : List Token :=
  if s.all isAllowed then (Lexer.run (s.length + 2) { cursor := { rest := s } }).toTokens
  else [.fault .malformed]

end DocTrace.Yaml
