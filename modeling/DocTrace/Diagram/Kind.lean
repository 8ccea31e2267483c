import DocTrace.Diagram.C4
import DocTrace.Diagram.Class
import DocTrace.Diagram.EntityRelation
import DocTrace.Diagram.Flowchart
import DocTrace.Diagram.Mindmap
import DocTrace.Diagram.Requirement
import DocTrace.Diagram.Sequence
import DocTrace.Diagram.State

/-!
The eight kinds of diagram, their keywords, and the analysis of a text by the
kind that its first word names. A text of another kind has an empty analysis
under that word.
-/

namespace DocTrace

inductive DiagramKind where
  | flowchart
  | sequence
  | state
  | er
  | mindmap
  | requirement
  | classes
  | c4
deriving DecidableEq

namespace DiagramKind

def all : List DiagramKind :=
  [.flowchart, .sequence, .state, .er, .mindmap, .requirement, .classes, .c4]

def name : DiagramKind → String
  | .flowchart => "flowchart"
  | .sequence => "sequence"
  | .state => "state"
  | .er => "er"
  | .mindmap => "mindmap"
  | .requirement => "requirement"
  | .classes => "class"
  | .c4 => "c4"

def keywords : DiagramKind → List String
  | .flowchart => ["flowchart", "graph"]
  | .sequence => ["sequenceDiagram"]
  | .state => ["stateDiagram-v2", "stateDiagram"]
  | .er => ["erDiagram"]
  | .mindmap => ["mindmap"]
  | .requirement => ["requirementDiagram"]
  | .classes => ["classDiagram-v2", "classDiagram"]
  | .c4 => ["C4Context", "C4Container", "C4Component", "C4Dynamic", "C4Deployment"]

/-- A keyword that opens a flowchart without being listed among its keywords. -/
def layoutKeyword : String := "flowchart-elk"

def ofKeyword? (word : String) : Option DiagramKind :=
  if word = layoutKeyword then some .flowchart else all.find? (·.keywords.contains word)

def ofName? (name : String) : Option DiagramKind := all.find? (·.name = name)

def find? (word : String) : Option DiagramKind := (ofName? word).orElse fun _ => ofKeyword? word

def marks : DiagramKind → List Char → List Diagram.Mark
  | .flowchart => Diagram.Flowchart.marks
  | .sequence => Diagram.Sequence.marks
  | .state => Diagram.State.marks
  | .er => Diagram.EntityRelation.marks
  | .mindmap => Diagram.Mindmap.marks
  | .requirement => Diagram.Requirement.marks
  | .classes => Diagram.Class.marks
  | .c4 => Diagram.C4.marks

def analyze (kind : DiagramKind) (content : String) : Analysis :=
  (Diagram.Sketch.ofMarks (kind.marks content.toList)).toAnalysis kind.name

end DiagramKind

/-- The name of the kind that the first word names, else that word, else `unknown`. -/
def detectType (content : String) : String :=
  match Diagram.keyword? content.toList with
  | none => "unknown"
  | some word =>
    match DiagramKind.ofKeyword? (.ofList word) with
    | some kind => kind.name
    | none => .ofList word

def analyzeAs (diagramType : String) (content : String) : Analysis :=
  match DiagramKind.find? diagramType with
  | some kind => kind.analyze content
  | none => { diagramType }

def analyze (content : String) : Analysis := analyzeAs (detectType content) content

end DocTrace
