import DocTrace.Yaml.Tag

/-!
The nodes of a YAML document as a table. Collections name their parts by places
in it, so that several collections can share a part, and a collection can be a
part of itself. The entries of mappings stand in rows of their own, because
merge keys change them later.
-/

namespace DocTrace.Yaml

inductive Content where
  | scalar (text : List Char)
  | seq (items : List Nat)
  /-- The place of its row of entries. -/
  | map (row : Nat)

structure Node where
  tag : Tag
  content : Content

abbrev NodePair := Nat × Nat

structure NodeGraph where
  nodes : Array Node := #[]
  rows : Array (Array NodePair) := #[]
  /-- Whether an alias stands inside of the collection that it names. -/
  isRecursive : Bool := false

namespace NodeGraph

/-- An empty scalar, as stands where a node is left out. -/
def blank : Node := ⟨.null, .scalar []⟩

def node (g : NodeGraph) (n : Nat) : Node := g.nodes.getD n blank

def tag (g : NodeGraph) (n : Nat) : Tag := (g.node n).tag

def add (g : NodeGraph) (node : Node) : Nat × NodeGraph :=
  (g.nodes.size, { g with nodes := g.nodes.push node })

def setNode (g : NodeGraph) (n : Nat) (node : Node) : NodeGraph :=
  { g with nodes := g.nodes.setIfInBounds n node }

def setTag (g : NodeGraph) (n : Nat) (tag : Tag) : NodeGraph :=
  g.setNode n { g.node n with tag }

def items? (g : NodeGraph) (n : Nat) : Option (List Nat) :=
  match (g.node n).content with
  | .seq items => some items
  | _ => none

def row? (g : NodeGraph) (n : Nat) : Option Nat :=
  match (g.node n).content with
  | .map row => some row
  | _ => none

def entriesAt (g : NodeGraph) (row : Nat) : Array NodePair := g.rows.getD row #[]

def entries? (g : NodeGraph) (n : Nat) : Option (Array NodePair) := (g.row? n).map g.entriesAt

def putEntries (g : NodeGraph) (n : Nat) (entries : Array NodePair) : NodeGraph :=
  { g with rows := g.rows.push entries }.setNode n ⟨g.tag n, .map g.rows.size⟩

/-- Takes one entry out of a row, for all mappings that have it. -/
def dropEntry (g : NodeGraph) (row index : Nat) : NodeGraph :=
  { g with rows := g.rows.modify row (·.eraseIdxIfInBounds index) }

@[simp] theorem node_add_self (g : NodeGraph) (node : Node) :
    (g.add node).2.node (g.add node).1 = node := by
  simp [add, NodeGraph.node]

end NodeGraph

end DocTrace.Yaml
