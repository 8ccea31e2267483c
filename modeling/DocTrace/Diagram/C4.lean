import DocTrace.Diagram.Basic
import DocTrace.Diagram.Cleaning
import DocTrace.Text.Word

/-!
C4 diagrams. Every line is a call such as `Person(id, "Name")`: elements and
boundaries declare an identifier, relations connect two of them.
-/

namespace DocTrace.Diagram.C4

open Text

def elementWords : List String :=
  ["Person", "System", "SystemDb", "SystemQueue", "Container", "ContainerDb", "ContainerQueue",
    "Component", "ComponentDb", "ComponentQueue", "Node", "Node_L", "Node_R", "Deployment_Node"]

def relationWords : List String :=
  ["Rel", "BiRel", "Rel_U", "Rel_D", "Rel_L", "Rel_R", "Rel_Up", "Rel_Down", "Rel_Left",
    "Rel_Right", "Rel_Back", "Rel_Neighbor"]

/-- The relation that is drawn from its second argument to its first. -/
def backwardWord : String := "Rel_Back"

def isElement (word : String) : Bool :=
  elementWords.any fun w => word = w || word = w ++ "_Ext"

def isBoundary (word : String) : Bool :=
  word = "Boundary" || (endsWith "_Boundary" word && word ≠ "_Boundary")

/-- Cuts at the commas outside of double quotes and trims the pieces; an empty
last piece is dropped. `piece` is the reversed beginning of the one being read. -/
def argumentsFrom (quoted : Bool) (piece : List Char) : List Char → List (List Char)
  | [] => if (trim piece.reverse).isEmpty then [] else [trim piece.reverse]
  | c :: s =>
    if c = ',' && !quoted then trim piece.reverse :: argumentsFrom quoted [] s
    else argumentsFrom (if c = '"' then !quoted else quoted) (c :: piece) s

def splitArguments (s : List Char) : List (List Char) := argumentsFrom false [] s

structure Call where
  word : String
  arguments : List (List Char)

def isCallChar (c : Char) : Bool := c.isAlpha || c = '_'

/-- A trimmed line that is a call, with or without an opening brace after it. -/
def call? (line : List Char) : Option Call := do
  let (word, rest) ← span1? isCallChar line
  let rest ← after? ['('] (skipBlanks rest)
  let inner := dropEndWhile isBlank rest
  let inner := if inner.getLast? = some '\x7b' then dropEndWhile isBlank inner.dropLast else inner
  if inner.getLast? = some ')' then return ⟨.ofList word, splitArguments inner.dropLast⟩ else none

def Call.marks (c : Call) : List Mark :=
  match c.arguments with
  | [] => []
  | first :: others =>
    if isElement c.word || isBoundary c.word then
      declaration (unquote first) ((others.head?.filter (·.head? != some '$')).map unquote)
    else
      match others with
      | second :: more =>
        if relationWords.contains c.word then
          let label := (more.head?.map unquote).filter (!·.isEmpty)
          if c.word = backwardWord then connection (unquote second) (unquote first) label
          else connection (unquote first) (unquote second) label
        else []
      | [] => []

def marks (s : List Char) : List Mark :=
  (((bodyLines s).map trim).filterMap call?).flatMap Call.marks

end DocTrace.Diagram.C4
