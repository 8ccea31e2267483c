import DocTrace.Diagram.Basic
import DocTrace.Diagram.Cleaning
import DocTrace.Text.Word

/-!
Entity-relationship diagrams. A line names an entity, opens the block of its
attributes, or relates two entities. What stands inside a block is not read; a
line that begins with a closing brace ends it.
-/

namespace DocTrace.Diagram.EntityRelation

open Text

inductive Statement where
  | block (id : List Char) (name : Option (List Char))
  | relation (source target : List Char) (label : Option (List Char))
  | entity (id : List Char)

/-- `ID {` or `ID [Name] {`, whatever follows. -/
def block? (s : List Char) : Option Statement := do
  let (id, rest) ← span1? isDashedWord s
  let rest := skipBlanks rest
  match rest with
  | '[' :: t =>
    let (name, rest) := t.span (· ≠ ']')
    let rest ← (after? [']'] rest).map skipBlanks
    let _ ← after? ['\x7b'] rest
    return .block id (some name |>.filter (!·.isEmpty))
  | _ =>
    let _ ← after? ['\x7b'] rest
    return .block id none

/-- Passes over one character of a class, if there is one. -/
def optional (p : Char → Bool) : List Char → List Char
  | c :: s => if p c then s else c :: s
  | [] => []

def one? (p : Char → Bool) : List Char → Option (List Char)
  | c :: s => if p c then some s else none
  | [] => none

/-- The cardinalities at both ends with the line between them. -/
def cardinality? (s : List Char) : Option (List Char) := do
  let rest ← one? (fun c => c = '|' || c = '\x7d' || c = 'o') s
  let rest := optional (fun c => c = '|' || c = 'o') rest
  let rest ← (after? "--".toList rest).orElse fun _ => after? "..".toList rest
  let rest ← one? (fun c => c = '|' || c = 'o') rest
  return optional (fun c => c = '|' || c = '\x7b' || c = 'o') rest

def relation? (s : List Char) : Option Statement := do
  let (source, rest) ← span1? isDashedWord s
  let rest ← ((skipBlanks1? rest).bind cardinality?).bind skipBlanks1?
  let (target, rest) ← span1? isDashedWord rest
  match skipBlanks rest with
  | [] => return .relation source target none
  | ':' :: text =>
    let text := skipBlanks text
    if text.isEmpty then none else return .relation source target (some (unquote text))
  | _ => none

def entity? (s : List Char) : Option Statement :=
  if !s.isEmpty && s.all isDashedWord then some (.entity s) else none

def statement? (line : List Char) : Option Statement :=
  firstSome (fun (read : List Char → Option Statement) => read line) [block?, relation?, entity?]

def Statement.marks : Statement → List Mark
  | .block id name => declaration id (name.map unquote)
  | .relation source target label => connection source target label
  | .entity id => declaration id none

/-- Whether a block is open after a line at top level. -/
def opens (line : List Char) : Option Statement → Bool
  | some (.block ..) => line.getLast? != some '\x7d'
  | _ => false

/-- The state tells whether a block is open. -/
def step (inBlock : Bool) (raw : List Char) : Bool × List Mark :=
  let line := trim raw
  if inBlock then (line.head? != some '\x7d', [])
  else
    let found := statement? line
    (opens line found, (found.map Statement.marks).getD [])

def marks (s : List Char) : List Mark := marksFrom step false (bodyLines s)

end DocTrace.Diagram.EntityRelation
