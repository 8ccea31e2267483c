import DocTrace.Diagram.Basic
import DocTrace.Diagram.Cleaning
import DocTrace.Text.Case
import DocTrace.Text.Word

/-!
Class diagrams. A line declares a class or relates two classes; the body of a
class, counted by its braces, is not read. An arrow whose head stands on the left
leads from the right class to the left one.
-/

namespace DocTrace.Diagram.Class

open Text

def skippedWords : List String :=
  ["direction", "note", "classdef", "style", "cssclass", "link", "click", "namespace"]

/-- The arrows, in the order in which they are tried, each with whether it points to the left. -/
def arrows : List (String × Bool) :=
  [("<|--", true), ("<|..", true), ("--|>", false), ("..|>", false), ("*--", false),
    ("--*", false), ("o--", false), ("--o", false), ("<--", true), ("-->", false), ("<..", true),
    ("..>", false), ("--", false), ("..", false)]

inductive Statement where
  | declare (id : List Char) (name : Option (List Char))
  | relation (source target : List Char) (label : Option (List Char))

/-- Passes over type parameters between tildes, if there are any. -/
def dropGeneric (s : List Char) : List Char :=
  match s with
  | '~' :: t =>
    match t.span (· ≠ '~') with
    | (_, _ :: rest) => rest
    | (_, []) => s
  | _ => s

def dropQuote : List Char → List Char
  | '"' :: s => s
  | s => s

/-- The text of a bracket with one pair of quotes at most, if the line goes on with one. -/
def bracketName? (s : List Char) : Option (List Char) := do
  let rest ← after? ['['] (skipBlanks s)
  let (name, rest) := (dropQuote rest).span fun c => c ≠ ']' && c ≠ '"'
  let _ ← after? [']'] (dropQuote rest)
  if name.isEmpty then none else return name

/-- `class ID`, whatever follows. -/
def class? (s : List Char) : Option Statement := do
  let (id, rest) ← ((after? "class".toList s).bind skipBlanks1?).bind (span1? isDashedWord)
  return .declare id (bracketName? (dropGeneric rest))

/-- Passes over a multiplicity in double quotes, if there is one. -/
def dropMultiplicity (s : List Char) : List Char :=
  match s with
  | '"' :: t =>
    match t.span (· ≠ '"') with
    | (_, _ :: rest) => skipBlanks rest
    | (_, []) => s
  | _ => s

/-- Nothing, or a label after a colon, without the blanks around it; an empty one counts as none. -/
def label? (s : List Char) : Option (Option (List Char)) :=
  match skipBlanks s with
  | [] => some none
  | ':' :: text => some (some (trim text) |>.filter (!·.isEmpty))
  | _ => none

/-- What follows an arrow: the right class and the label. -/
def rightEnd? (s : List Char) : Option (List Char × Option (List Char)) := do
  let (right, rest) ← span1? isDashedWord (dropMultiplicity (skipBlanks s))
  let label ← label? rest
  return (right, label)

/-- What follows the left class: whether the arrow points back to it, the right class, the label. -/
def arrowEnd? (s : List Char) : Option (Bool × List Char × Option (List Char)) :=
  let rest := dropMultiplicity (skipBlanks s)
  firstSome (fun (arrow, back) =>
    ((after? arrow.toList rest).bind rightEnd?).map fun found => (back, found)) arrows

/-- The left class is the longest name with an arrow and another class after it. -/
def relation? (s : List Char) : Option Statement :=
  (longest1? isDashedWord arrowEnd? s).map fun (left, back, right, label) =>
    if back then .relation right left label else .relation left right label

def Statement.marks : Statement → List Mark
  | .declare id name => declaration id (name.map unquote)
  | .relation source target label => connection source target label

/-- Opening braces less closing ones. -/
def balance (line : List Char) : Int := line.count '\x7b' - line.count '\x7d'

def isSkipped (line : List Char) : Bool :=
  line = ['\x7d'] || skippedWords.contains (.ofList (lower (firstWord line)))

/-- The state is the depth of the body being passed over, zero outside of one. -/
def step (depth : Int) (raw : List Char) : Int × List Mark :=
  let line := trim raw
  if depth ≠ 0 then (depth + balance line, [])
  else if isSkipped line then (0, [])
  else
    match class? line with
    | some found => (max 0 (balance line), found.marks)
    | none => (0, ((relation? line).map Statement.marks).getD [])

def marks (s : List Char) : List Mark := marksFrom step 0 (bodyLines s)

end DocTrace.Diagram.Class
