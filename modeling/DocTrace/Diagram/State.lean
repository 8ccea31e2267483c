import DocTrace.Diagram.Basic
import DocTrace.Diagram.Cleaning
import DocTrace.Text.Case
import DocTrace.Text.Word

/-!
State diagrams. A line declares a state, describes one, or leads from one state
to another. The start and end mark `[*]` stands at the ends of transitions but is
no state.
-/

namespace DocTrace.Diagram.State

open Text

def skippedWords : List String :=
  ["direction", "note", "end", "classdef", "class", "style", "--"]

def startEnd : List Char := ['[', '*', ']']

inductive Statement where
  | alias (id name : List Char)
  | state (id : List Char)
  | transition (source target : List Char) (label : Option (List Char))
  | description (id text : List Char)

/-- `state "Name" as ID`, whatever follows. -/
def alias? (s : List Char) : Option Statement := do
  let rest ← ((after? "state".toList s).bind skipBlanks1?).bind (after? ['"'])
  let (name, rest) := rest.span (· ≠ '"')
  let rest ← ((after? ['"'] rest).bind skipBlanks1?).bind (after? "as".toList)
  let (id, _) ← (skipBlanks1? rest).bind (span1? isNameChar)
  return .alias id name

/-- `state ID`, whatever follows. -/
def state? (s : List Char) : Option Statement := do
  let (id, _) ← ((after? "state".toList s).bind skipBlanks1?).bind (span1? isNameChar)
  return .state id

/-- Nothing, or a label after a colon, without the blanks around it; an empty one counts as none. -/
def label? (s : List Char) : Option (Option (List Char)) :=
  match skipBlanks s with
  | [] => some none
  | ':' :: text => some (some (trim text) |>.filter (!·.isEmpty))
  | _ => none

def target? (s : List Char) : Option (List Char × Option (List Char)) := do
  let rest ← (after? "-->".toList (skipBlanks s)).map skipBlanks
  let (target, rest) ←
    match after? startEnd rest with
    | some rest => some (startEnd, rest)
    | none => span1? isNameChar rest
  let label ← label? rest
  return (target, label)

/-- The source is the longest name with an arrow and a target after it. -/
def transition? (s : List Char) : Option Statement :=
  let found :=
    match after? startEnd s with
    | some rest => (target? rest).map fun found => (startEnd, found)
    | none => longest1? isNameChar target? s
  found.map fun (source, target, label) => .transition source target label

def description? (s : List Char) : Option Statement := do
  let (id, rest) ← span1? isNameChar s
  let text ← (after? [':'] (skipBlanks rest)).map skipBlanks
  if text.isEmpty then none else return .description id text

def statement? (line : List Char) : Option Statement :=
  if line.isEmpty || line = ['\x7d'] ||
      skippedWords.contains (.ofList (lower (firstWord line))) then none
  else
    firstSome (fun (read : List Char → Option Statement) => read line)
      [alias?, state?, transition?, description?]

def Statement.marks : Statement → List Mark
  | .alias id name => declaration id (some name)
  | .state id => declaration id none
  | .transition source target label =>
    if source = startEnd then
      if target = startEnd then [] else declaration target none
    else if target = startEnd then declaration source none
    else connection source target label
  | .description id text => declaration id (some (unquote text))

def marks (s : List Char) : List Mark :=
  (((bodyLines s).map trim).filterMap statement?).flatMap Statement.marks

end DocTrace.Diagram.State
