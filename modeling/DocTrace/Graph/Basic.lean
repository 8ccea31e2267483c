import DocTrace.Diagram.Basic
import DocTrace.Notice
import DocTrace.Rule.Loading

/-!
The graph of a project: its identifiers, the edges between them, and what is
known about its files and folders. It is assembled first and then frozen; from
then on only metadata may be added, and never in place of another value.
-/

namespace DocTrace

/-- Edge lists are in first-seen order without repeats. -/
structure Graph.Node where
  uplinks : List String := []
  downlinks : List String := []
  metadata : Fields := {}

inductive Graph.LinkKind where
  | uplink
  | downlink
  | requirement
deriving DecidableEq

def Graph.LinkKind.name : Graph.LinkKind → String
  | .uplink => "uplink"
  | .downlink => "downlink"
  | .requirement => "requirement"

/-- A link that is written in the header of a document. -/
structure Graph.Link where
  source : String
  target : String
  kind : Graph.LinkKind
  file : String
deriving DecidableEq

structure Graph where
  nodes : Table String Graph.Node := {}
  /-- The identifiers that something other than their own file mentions. -/
  referencedIds : List String := []
  /-- The first file for each identifier, or for the name of a note. -/
  idToFile : Table String String := {}
  /-- All files of the identifiers that several of them declare. -/
  duplicates : Table String (List String) := {}
  declaredLinks : List Graph.Link := []
  analyses : Table String Analysis := {}
  hubs : List HubFolder := []
  /-- The rules that claim each folder. -/
  folders : Table String (List String) := {}
  folderPrefixes : Table String String := {}
  files : List String := []
  directories : List String := []
  foreignFiles : List String := []
  systemFolders : List String := []
  exemptIds : List String := []
  /-- The identifiers that stand for a file without being declared in a document. -/
  stemIds : List String := []
  /-- Which rule wrote a metadata value. -/
  writers : Table (String × String) String := {}
  frozen : Bool := false

namespace Graph

def rootId : String := "ROOT"

/-- The metadata key of identifiers that stand for a whole file. -/
def fileRootKey : String := "isFileRoot"

def classificationKey : String := "classification"

def defaultClassification : String := "Functional"

/-! ### Assembly steps -/

def ensure (g : Graph) (id : String) : Graph := { g with nodes := g.nodes.putNew id {} }

def addUplink (g : Graph) (child parent : String) : Graph :=
  { g with nodes := g.nodes.update child {} fun n =>
      { n with uplinks := addNew n.uplinks parent } }

def addDownlink (g : Graph) (parent child : String) : Graph :=
  { g with nodes := g.nodes.update parent {} fun n =>
      { n with downlinks := addNew n.downlinks child } }

def connect (g : Graph) (parent child : String) : Graph :=
  (g.addUplink child parent).addDownlink parent child

def refer (g : Graph) (id : String) : Graph :=
  { g with referencedIds := addNew g.referencedIds id }

/-- Writes a metadata value unless there is one. -/
def describe (g : Graph) (id key : String) (value : Value) : Graph :=
  { g with nodes := g.nodes.update id {} fun n =>
      { n with metadata := n.metadata.putNew key value } }

/-! ### Changes with regard to the freeze -/

inductive Fault where
  | addToFrozen (id : String)
  /-- A new edge between two nodes of a frozen graph. -/
  | connectInFrozen
deriving DecidableEq

def Fault.message : Fault → String
  | .addToFrozen id => s!"cannot add node '{id}' to a frozen context"
  | .connectInFrozen => "'tuple' object has no attribute 'append'"

def freeze (g : Graph) : Graph := { g with frozen := true }

/-- The graph in which an identifier has a node, and the node. -/
def node (g : Graph) (id : String) : Except Fault (Graph × Node) :=
  match g.nodes.find? id with
  | some n => .ok (g, n)
  | none => if g.frozen then .error (.addToFrozen id) else .ok (g.ensure id, {})

/-- Whether a frozen graph has an edge already. The child is looked at first. -/
def checkConnected (g : Graph) (parent child : String) : Except Fault Unit := do
  match g.nodes.find? child with
  | none => .error (.addToFrozen child)
  | some n => if n.uplinks.contains parent then .ok () else .error .connectInFrozen
  match g.nodes.find? parent with
  | none => .error (.addToFrozen parent)
  | some n => if n.downlinks.contains child then .ok () else .error .connectInFrozen

def link (g : Graph) (parent child : String) : Except Fault Graph :=
  if g.frozen then (g.checkConnected parent child).map fun _ => g
  else .ok (g.connect parent child)

/-- Writes a metadata value for a rule, unless another value is there. The result
tells whether the value is now the one given. -/
def annotate (g : Graph) (id key : String) (value : Value) (writer : String) :
    Bool × Graph × List Notice :=
  match g.nodes.find? id with
  | none => (false, g, [.noNodeToAnnotate writer id key])
  | some n =>
    let kept := ((n.metadata.find? key).filter fun v => !v.isNull).filter fun v =>
      !v.eqValue value
    match kept with
    | some v =>
      let owner := (g.writers.find? (id, key)).getD "graph builder"
      (false, g, [.annotationKept writer key v id owner value])
    | none =>
      let n := { n with metadata := n.metadata.put key value }
      (true, { g with nodes := g.nodes.put id n, writers := g.writers.put (id, key) writer }, [])

/-! ### Queries -/

/-- The identifiers that documents declare, in the order of their first declaration. -/
def declaredIds (g : Graph) : List String :=
  g.idToFile.keys.filter fun id => !g.stemIds.contains id

def isDeclared (g : Graph) (id : String) : Bool := g.idToFile.contains id

def uplinks (g : Graph) (id : String) : List String :=
  ((g.nodes.find? id).map Node.uplinks).getD []

def downlinks (g : Graph) (id : String) : List String :=
  ((g.nodes.find? id).map Node.downlinks).getD []

def metadata? (g : Graph) (id key : String) : Option Value :=
  (g.nodes.find? id).bind fun n => n.metadata.find? key

def nodesWith (g : Graph) (p : Node → Bool) : List String :=
  (g.nodes.entries.filter fun e => p e.2).map (·.1)

def linkedUplinks (g : Graph) (id : String) : List String :=
  (g.nodesWith fun n => n.downlinks.contains id).foldl addNew (g.uplinks id)

def linkedDownlinks (g : Graph) (id : String) : List String :=
  (g.nodesWith fun n => n.uplinks.contains id).foldl addNew (g.downlinks id)

/-- The first hub whose folder holds a file; footnotes belong to none. -/
def hubFor? (g : Graph) (path : String) : Option HubFolder :=
  if isFootnote path then none
  else g.hubs.find? fun h => Text.beginsWith (h.folder ++ "/") path

end Graph

end DocTrace
