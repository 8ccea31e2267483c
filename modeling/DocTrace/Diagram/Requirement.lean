import DocTrace.Diagram.Basic
import DocTrace.Diagram.Cleaning
import DocTrace.Text.Case
import DocTrace.Text.Word

/-!
Requirement diagrams. A block declares a requirement or an element, and an `id`
line inside a block gives it a second name. Outside of blocks a line relates two
names by a verb and reads the same in both directions.
-/

namespace DocTrace.Diagram.Requirement

open Text

/-- The word before a block's name: `element`, or a word that ends in `requirement`. -/
def isBlockWord (word : List Char) : Bool :=
  let folded := word.map fold
  folded = "element".toList || "requirement".toList.isSuffixOf folded

/-- A name in double quotes, which are kept, or a bare one. -/
def blockName? (s : List Char) : Option (List Char × List Char) :=
  match s with
  | '"' :: t =>
    match t.span (· ≠ '"') with
    | (c :: name, _ :: rest) => some ('"' :: c :: name ++ ['"'], rest)
    | _ => none
  | _ => span1? isNameChar s

def block? (s : List Char) : Option (List Char) := do
  let (word, rest) := s.span isWord
  if !isBlockWord word then none
  let (name, rest) ← (skipBlanks1? rest).bind blockName?
  let _ ← after? ['\x7b'] (skipBlanks rest)
  return unquote name

/-- A value in quotes of one kind up to the end of the line. -/
def quoted? (quote : Char) (s : List Char) : Option (List Char) := do
  let rest ← after? [quote] s
  let (value, rest) := rest.span (· ≠ quote)
  let rest ← after? [quote] rest
  if (skipBlanks rest).isEmpty then return unquote ([quote] ++ value ++ [quote]) else none

def bare? (s : List Char) : Option (List Char) := do
  let (value, rest) ← span1? isNameChar s
  if (skipBlanks rest).isEmpty then return value else none

def id? (s : List Char) : Option (List Char) := do
  let rest ← (after? [':'] (skipBlanks (← after? "id".toList s))).map skipBlanks
  firstSome (fun (read : List Char → Option (List Char)) => read rest)
    [quoted? '"', quoted? '\'', bare?]

structure Relation where
  source : List Char
  verb : List Char
  target : List Char

/-- What follows the source in `source - verb -> target`. -/
def forwardRest? (s : List Char) : Option (List Char × List Char) := do
  let rest ← (after? ['-'] (skipBlanks s)).map skipBlanks
  let (verb, rest) ← span1? isWord rest
  let rest ← (after? ['-', '>'] (skipBlanks rest)).map skipBlanks
  let target ← bare? rest
  return (verb, target)

/-- The source is the longest name with a verb and a target after it. -/
def forward? (s : List Char) : Option Relation :=
  (longest1? isNameChar forwardRest? s).map fun (source, verb, target) => ⟨source, verb, target⟩

/-- The same relation written as `target <- verb - source`. -/
def backward? (s : List Char) : Option Relation := do
  let (target, rest) ← span1? isNameChar s
  let rest ← (after? ['<', '-'] (skipBlanks rest)).map skipBlanks
  let (verb, rest) ← span1? isWord rest
  let rest ← (after? ['-'] (skipBlanks rest)).map skipBlanks
  let source ← bare? rest
  return ⟨source, verb, target⟩

def relation? (s : List Char) : Option Relation := (forward? s).orElse fun _ => backward? s

def idMarks (name : List Char) (value : List Char) : List Mark :=
  if value.isEmpty || value = name then [] else declaration value (some name)

/-- The state is the name of the open block. -/
def step (current : Option (List Char)) (raw : List Char) : Option (List Char) × List Mark :=
  let line := trim raw
  match block? line with
  | some name => (some name, declaration name none)
  | none =>
    if line.head? = some '\x7d' then (none, [])
    else
      match current with
      | some name => (current, ((id? line).map (idMarks name)).getD [])
      | none =>
        (current, ((relation? line).map fun r => connection r.source r.target (some r.verb)).getD [])

def marks (s : List Char) : List Mark := marksFrom step none (bodyLines s)

end DocTrace.Diagram.Requirement
