import DocTrace.Diagram.Basic
import DocTrace.Diagram.Cleaning
import DocTrace.Text.Case
import DocTrace.Text.Word

/-!
Mindmaps. Every line is a node, and its parent is the closest line above that is
indented less. A node is named by the word before its shape or by its own text;
the words for the root name the map and are no nodes.
-/

namespace DocTrace.Diagram.Mindmap

open Text

def rootWords : List String := ["root", "mindmap"]

def isShapeChar (c : Char) : Bool := "[]()\x7b\x7d".toList.contains c

/-- The number of spaces and tabs before the text of a line. -/
def indentation (line : List Char) : Nat := (line.takeWhile fun c => c = ' ' || c = '\t').length

def shapes : List (String × String) :=
  [("((", "))"), ("))", "(("), ("\x7b\x7b", "\x7d\x7d"), ("(", ")"), (")", "("), ("[", "]")]

/-- A text that is one shape from its first to its last character. -/
def isShape (s : List Char) : Bool :=
  shapes.any fun (opening, closing) =>
    ((after? opening.toList s).map fun rest => closing.toList.isSuffixOf rest).getD false

def shapeText (s : List Char) : Option (List Char) :=
  some (unquote (stripChars isShapeChar s)) |>.filter (!·.isEmpty)

structure Node where
  id : List Char
  label : Option (List Char) := none

/-- The node of a trimmed line; an unnamed shape without text is none. -/
def node? (text : List Char) : Option Node :=
  let cut := text.span isDashedWord
  let rest := skipBlanks cut.2
  if !cut.1.isEmpty && isShape rest then some ⟨cut.1, shapeText rest⟩
  else if (text.head?.map "([\x7b)".toList.contains).getD false then
    (shapeText text).map fun id => ⟨id, none⟩
  else some ⟨text, none⟩

def Node.isRoot (n : Node) : Bool := rootWords.contains (.ofList (lower n.id))

/-- The node of a line, unless the line is blank or an icon or class line. -/
def lineNode? (raw : List Char) : Option (Nat × Node) :=
  let text := trim raw
  if text.isEmpty || [':', ':'].isPrefixOf text then none
  else (node? text).map fun n => (indentation raw, n)

/-- The open branches, innermost first: indentation, and identifier or none for a root word. -/
abbrev Branches := List (Nat × Option (List Char))

def step (branches : Branches) (raw : List Char) : Branches × List Mark :=
  match lineNode? raw with
  | none => (branches, [])
  | some (indent, n) =>
    let above := branches.dropWhile fun branch => indent ≤ branch.1
    if n.isRoot then ((indent, none) :: above, [])
    else
      let edge :=
        match above with
        | (_, some parent) :: _ => [Mark.edge (.ofList parent) (.ofList n.id) none]
        | _ => []
      ((indent, some n.id) :: above, declaration n.id n.label ++ edge)

def marks (s : List Char) : List Mark := marksFrom step [] (bodyLines s)

end DocTrace.Diagram.Mindmap
