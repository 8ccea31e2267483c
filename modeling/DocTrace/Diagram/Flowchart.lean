import DocTrace.Diagram.Basic
import DocTrace.Diagram.Cleaning
import DocTrace.Text.Case
import DocTrace.Text.Word

/-!
Flowcharts. A statement is a chain of node groups with arrows between them; a
group joins nodes by `&`, and every node of a group is linked with every node of
the next. A node may carry a shape such as `A[Label]`, an arrow a label, written
between its two halves or between bars after it.
-/

namespace DocTrace.Diagram.Flowchart

open Text

/-- First words of statements that declare neither nodes nor edges. -/
def skippedWords : List String :=
  ["classdef", "class", "style", "linkstyle", "click", "direction", "end", "acctitle",
    "accdescr"]

def directions : List String := ["TB", "TD", "BT", "RL", "LR"]

def dropDirection (s : List Char) : List Char :=
  (firstSome (fun d =>
    (after? d.toList s).filter fun rest => !(rest.head?.map isWord).getD false) directions).getD s

/-- The statements of all lines; the first line loses its keyword and its direction. -/
def statements (s : List Char) : List (List Char) :=
  match cleanLines s with
  | [] => []
  | head :: rest =>
    ((dropDirection (trim (afterFirstWord head)) :: rest).flatMap (splitOn ';')).map trim
      |>.filter (!·.isEmpty)

def opensSubgraph (s : List Char) : Bool :=
  (((after? "subgraph".toList s).bind skipBlanks1?).bind (span1? isNameChar)).isSome

def isSkipped (s : List Char) : Bool :=
  skippedWords.contains (.ofList (lower (dropEndWhile (· = ':') (firstWord s))))

def isArrowText (c : Char) : Bool := c ≠ '|' && c ≠ '>'

/-- An arrow in two halves with its label between them: the label and what follows. -/
def halvedArrow? (opening : String) (closings : List String) (s : List Char) :
    Option (List Char × List Char) := do
  let rest ← after? opening.toList s
  let closing? (t : List Char) : Option (List Char) :=
    (skipBlanks1? t).bind fun u => firstSome (fun c => after? c.toList u) closings
  let found ← longest1? isBlank (shortest1? isArrowText closing?) rest
  return found.2

/-- At least `least` copies of a character. -/
def run? (c : Char) (least : Nat) (s : List Char) : Option (List Char) :=
  let cut := s.span (· = c)
  if least ≤ cut.1.length then some cut.2 else none

/-- An arrow in one piece: what follows it. The first kind that fits counts. -/
def plainArrow? (s : List Char) : Option (List Char) :=
  firstSome (fun (read : List Char → Option (List Char)) => read s)
    [after? "<-->".toList, after? "<==>".toList, after? "<-.->".toList,
      fun s => (run? '-' 2 s).bind (after? [ '>' ]),
      fun s => (run? '=' 2 s).bind (after? [ '>' ]),
      fun s => ((after? [ '-' ] s).bind (run? '.' 1)).bind (after? "->".toList),
      run? '-' 3,
      run? '=' 3,
      fun s => ((after? [ '-' ] s).bind (run? '.' 1)).bind (after? [ '-' ]),
      after? "--o".toList, after? "--x".toList, after? "==o".toList, after? "==x".toList]

/-- The label between bars, if the text begins with one, and what follows. -/
def barLabel (s : List Char) : Option (List Char) × List Char :=
  match s with
  | '|' :: t =>
    match t.span (· ≠ '|') with
    | (text, _ :: rest) => (some text, skipBlanks rest)
    | (_, []) => (none, s)
  | _ => (none, s)

/-- An arrow with the blanks around it: its label and what follows. A label
between bars goes before one between the halves unless it is empty. -/
def arrow? (s : List Char) : Option (Option (List Char) × List Char) := do
  let start := skipBlanks s
  let halved := firstSome (fun (read : List Char → Option (List Char × List Char)) => read start)
    [halvedArrow? "--" ["-->", "---"], halvedArrow? "==" ["==>", "==="],
      halvedArrow? "-." [".->"]]
  let (inner, rest) ←
    match halved with
    | some (text, rest) => some (some text, rest)
    | none => (plainArrow? start).map fun rest => (none, rest)
  let (outer, rest) := barLabel (skipBlanks rest)
  return (((outer.filter (!·.isEmpty)).orElse fun _ => inner).map unquote, rest)

/-- The group before the first arrow, and each arrow's label with the group after
it. `skip` characters belong to an arrow that was just read, and `group` is the
reversed beginning of the group being read. -/
def groupsFrom (skip : Nat) (group : List Char) :
    List Char → List Char × List (Option (List Char) × List Char)
  | [] => (group.reverse, [])
  | c :: s =>
    match skip with
    | skip + 1 => groupsFrom skip group s
    | 0 =>
      match arrow? (c :: s) with
      | some (label, rest) =>
        -- The recursion goes on with the next character and skips what the arrow took.
        let next := groupsFrom (s.length - rest.length) [] s
        (group.reverse, (label, next.1) :: next.2)
      | none => groupsFrom 0 (c :: group) s

def groups (s : List Char) : List Char × List (Option (List Char) × List Char) :=
  groupsFrom 0 [] s

/-- The delimiters of the node shapes, tried in this order. -/
def shapes : List (String × String) :=
  [("(((", ")))"), ("((", "))"), ("([", "])"), ("[[", "]]"), ("[(", ")]"), ("\x7b\x7b", "\x7d\x7d"),
    ("[/", "/]"), ("[\\", "\\]"), ("[", "]"), ("(", ")"), ("\x7b", "\x7d"), (">", "]")]

/-- Nothing, or a class name after three colons. -/
def isClassSuffix (s : List Char) : Bool :=
  s.isEmpty ||
    ((after? ":::".toList s).map fun name => !name.isEmpty && name.all isDashedWord).getD false

/-- A shape up to the end, a class name after it left aside. -/
def shape? (s : List Char) : Option (List Char) :=
  firstSome (fun (opening, closing) => do
    let rest ← after? opening.toList s
    let inner ← shortest? (· ≠ '\n')
      (fun t => ((after? closing.toList t).filter isClassSuffix)) rest
    return opening.toList ++ inner.1 ++ closing.toList) shapes

def node? (s : List Char) : Option (List Char × Option (List Char)) :=
  match s with
  | [] => none
  | c :: s =>
    if c.isAlphanum || c = '_' then
      (shortest? isNameChar (fun t =>
        let rest := skipBlanks t
        match shape? rest with
        | some shape => some (some shape)
        | none => if isClassSuffix rest then some none else none) s).map
        fun found => (c :: found.1, found.2)
    else none

def isShapeOpening (c : Char) : Bool := "[(\x7b>/\\".toList.contains c

def isShapeClosing (c : Char) : Bool := "])\x7d/\\".toList.contains c

def shapeLabel (shape : List Char) : List Char :=
  unquote (dropEndWhile isShapeClosing (shape.dropWhile isShapeOpening))

/-- The nodes of a group; what is no node is passed over. -/
def groupNodes (s : List Char) : List (List Char × Option (List Char)) :=
  ((splitOn '&' s).map trim).filterMap node?

/-- The edges between a group and the next, and so on along the chain. -/
def chainMarks (sources : List (List Char)) :
    List (Option (List Char) × List (List Char)) → List Mark
  | [] => []
  | (label, targets) :: rest =>
    (sources.flatMap fun source => targets.map fun target =>
      Mark.edge (.ofList source) (.ofList target) (label.map .ofList)) ++ chainMarks targets rest

def statementMarks (s : List Char) : List Mark :=
  if opensSubgraph s || isSkipped s then []
  else
    let chain := groups s
    let first := groupNodes chain.1
    let others := chain.2.map fun link => (link.1, groupNodes link.2)
    let nodes := first ++ others.flatMap (·.2)
    nodes.flatMap (fun node => declaration node.1 (node.2.map shapeLabel)) ++
      chainMarks (first.map (·.1)) (others.map fun link => (link.1, link.2.map (·.1)))

def marks (s : List Char) : List Mark := (statements s).flatMap statementMarks

end DocTrace.Diagram.Flowchart
