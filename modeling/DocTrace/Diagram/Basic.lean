import DocTrace.Table

/-!
What is read out of a diagram: identifiers, edges between them and display
labels. Each line of a diagram contributes marks, and drawing the marks one
after the other gives the analysis.
-/

namespace DocTrace

structure Edge where
  source : String
  target : String
  label : Option String := none
deriving DecidableEq

/-- The result for one diagram. `fromCache` tells where it came from and not what it says. -/
structure Analysis where
  diagramType : String
  nodes : List String := []
  edges : List Edge := []
  labels : Table String String := {}
  fromCache : Bool := false
deriving DecidableEq

def Analysis.endpoints (a : Analysis) : List String :=
  a.edges.flatMap fun e => [e.source, e.target]

def Analysis.unmarked (a : Analysis) : Analysis := { a with fromCache := false }

theorem Analysis.unmarked_eq_self {a : Analysis} (h : a.fromCache = false) : a.unmarked = a := by
  cases a
  cases h
  rfl

namespace Diagram

inductive Mark where
  | node (id : String)
  | label (id text : String)
  | edge (source target : String) (label : Option String)
deriving DecidableEq

/-- Nodes are kept in first-seen order without repeats, edges with repeats, and
the first label of an identifier stays. -/
structure Sketch where
  nodes : List String := []
  edges : List Edge := []
  labels : Table String String := {}
deriving DecidableEq

def Sketch.draw (s : Sketch) : Mark → Sketch
  | .node id => if id = "" || s.nodes.contains id then s else { s with nodes := s.nodes ++ [id] }
  | .label id text => { s with labels := s.labels.putNew id text }
  | .edge source target label => { s with edges := s.edges ++ [⟨source, target, label⟩] }

def Sketch.ofMarks (marks : List Mark) : Sketch := marks.foldl Sketch.draw {}

def Sketch.toAnalysis (s : Sketch) (diagramType : String) : Analysis :=
  { diagramType, nodes := s.nodes, edges := s.edges, labels := s.labels }

def connection (source target : List Char) (label : Option (List Char)) : List Mark :=
  [.node (.ofList source), .node (.ofList target),
    .edge (.ofList source) (.ofList target) (label.map .ofList)]

/-- The marks of an identifier, with a label where there is one. -/
def declaration (id : List Char) (label : Option (List Char)) : List Mark :=
  .node (.ofList id) :: (label.toList.map fun text => .label (.ofList id) (.ofList text))

/-- The marks of a list of lines that are read one by one while a state is carried along. -/
def marksFrom (step : σ → List Char → σ × List Mark) (state : σ) :
    List (List Char) → List Mark
  | [] => []
  | line :: rest =>
    let next := step state line
    next.2 ++ marksFrom step next.1 rest

end Diagram

end DocTrace
