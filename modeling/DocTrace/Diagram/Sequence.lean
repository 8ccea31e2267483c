import DocTrace.Diagram.Basic
import DocTrace.Diagram.Cleaning
import DocTrace.Text.Case
import DocTrace.Text.Word

/-!
Sequence diagrams. A line declares a participant, possibly with an alias that is
shown instead of its identifier, or sends a message from one participant to
another. Lines that open or close a block are passed over.
-/

namespace DocTrace.Diagram.Sequence

open Text

def blockWords : List String :=
  ["loop", "alt", "else", "opt", "par", "and", "critical", "break", "rect", "end", "note",
    "activate", "deactivate", "autonumber", "box", "destroy", "title", "links", "link",
    "properties", "details"]

/-- The arrows, in the order in which they are tried. -/
def arrows : List String :=
  ["<<-->>", "<<->>", "-->>", "->>", "-->", "->", "--x", "-x", "--)", "-)"]

inductive Statement where
  | participant (id : List Char) (name : Option (List Char))
  | message (source target : List Char) (label : Option (List Char))

def afterKeyword? (word : String) (s : List Char) : Option (List Char) :=
  (afterFolded? word.toList s).bind skipBlanks1?

/-- Nothing, or `as` and a name up to the end. -/
def alias? (s : List Char) : Option (Option (List Char)) :=
  if s.isEmpty then some none
  else
    ((skipBlanks1? s).bind (afterKeyword? "as")).bind fun name =>
      if name.isEmpty then none else some (some name)

def participant? (s : List Char) : Option Statement := do
  let kind? (s : List Char) :=
    firstSome (fun word => afterKeyword? word s) ["participant", "actor"]
  let rest ← ((afterKeyword? "create" s).bind kind?).orElse fun _ => kind? s
  let (id, rest) ← span1? (fun c => !isBlank c && c ≠ ':') rest
  let name ← alias? rest
  return .participant id name

/-- Nothing, or a label after a colon, without the blanks around it; an empty one counts as none. -/
def label? (s : List Char) : Option (Option (List Char)) :=
  match skipBlanks s with
  | [] => some none
  | ':' :: text => some (some (trim text) |>.filter (!·.isEmpty))
  | _ => none

def receiver? (s : List Char) : Option (List Char × Option (List Char)) := do
  let (target, rest) ← span1? isNameChar (skipBlanks s)
  let label ← label? rest
  return (target, label)

/-- What follows an arrow: an activation sign where one can be read, and the receiver. -/
def delivery? (s : List Char) : Option (List Char × Option (List Char)) :=
  match skipBlanks s with
  | c :: t =>
    if c = '+' || c = '-' then (receiver? t).orElse fun _ => receiver? (c :: t)
    else receiver? (c :: t)
  | [] => none

/-- The sender is the shortest name with an arrow and a receiver after it. -/
def message? (s : List Char) : Option Statement :=
  (shortest1? isNameChar (fun t =>
    firstSome (fun arrow => (after? arrow.toList (skipBlanks t)).bind delivery?) arrows) s).map
    fun (source, target, label) => .message source target label

def statement? (line : List Char) : Option Statement :=
  (participant? line).orElse fun _ =>
    if blockWords.contains (.ofList (lower (firstWord line))) then none else message? line

def Statement.marks : Statement → List Mark
  | .participant id name => declaration id (name.map unquote)
  | .message source target label => connection source target label

def marks (s : List Char) : List Mark :=
  (((bodyLines s).map trim).filterMap statement?).flatMap Statement.marks

end DocTrace.Diagram.Sequence
