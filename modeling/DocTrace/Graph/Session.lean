import DocTrace.Graph.Basic

/-!
Work on a graph, one operation after the other. An edge is drawn at the child first and
then at the parent, and an operation that fails keeps what it did before it failed.
Freezing fixes the edge lists of all nodes. Queries look up the far ends of edges in an
inverse, which is built for every query until the graph is frozen and kept from then on.
-/

namespace DocTrace.Graph

/-- For each identifier the nodes that list it as a downlink, and those that list it as an uplink. -/
structure Inverse where
  parents : Table String (List String) := {}
  children : Table String (List String) := {}

namespace Inverse

/-- Notes a node under each of the identifiers that it lists. -/
def note (owner : String) (t : Table String (List String)) (listed : List String) :
    Table String (List String) :=
  listed.foldl (fun t id => t.update id [] (· ++ [owner])) t

def addNode (v : Inverse) (id : String) (n : Node) : Inverse :=
  { parents := note id v.parents n.downlinks, children := note id v.children n.uplinks }

def ofGraph (g : Graph) : Inverse := g.nodes.entries.foldl (fun v e => v.addNode e.1 e.2) {}

def parentsOf (v : Inverse) (id : String) : List String := (v.parents.find? id).getD []

def childrenOf (v : Inverse) (id : String) : List String := (v.children.find? id).getD []

end Inverse

structure Session where
  graph : Graph := {}
  /-- The nodes whose edge lists are fixed. -/
  fixed : List String := []
  /-- The inverse that is kept, if there is one. -/
  inverse : Option Inverse := none

/-- What an operation gives, and the session that it leaves. -/
structure Outcome (α : Type) where
  result : Except Fault α
  session : Session

/-- Goes on with another operation unless one has failed. -/
def Outcome.andThen (o : Outcome α) (next : α → Session → Outcome β) : Outcome β :=
  match o.result with
  | .ok a => next a o.session
  | .error fault => ⟨.error fault, o.session⟩

namespace Session

def node (s : Session) (id : String) : Outcome Node :=
  match s.graph.nodes.find? id with
  | some n => ⟨.ok n, s⟩
  | none =>
    if s.graph.frozen then ⟨.error (.addToFrozen id), s⟩
    else ⟨.ok {}, { s with graph := s.graph.ensure id }⟩

/-- Adds one end of an edge to its owner. A list that has it already is not touched. -/
def addEnd (s : Session) (owner : String) (isListed : Node → Bool) (add : Graph → Graph) :
    Outcome Unit :=
  (s.node owner).andThen fun n s =>
    if isListed n then ⟨.ok (), s⟩
    else if s.fixed.contains owner then ⟨.error .connectInFrozen, s⟩
    else ⟨.ok (), { s with graph := add s.graph }⟩

def addUplink (s : Session) (child parent : String) : Outcome Unit :=
  s.addEnd child (·.uplinks.contains parent) (·.addUplink child parent)

def addDownlink (s : Session) (parent child : String) : Outcome Unit :=
  s.addEnd parent (·.downlinks.contains child) (·.addDownlink parent child)

def link (s : Session) (parent child : String) : Outcome Unit :=
  (s.addUplink child parent).andThen fun _ s => s.addDownlink parent child

def freeze (s : Session) : Session :=
  if s.graph.frozen then s
  else { s with graph := s.graph.freeze, fixed := s.fixed ++ s.graph.nodes.keys }

/-- Only metadata is written, which freezing leaves open. -/
def annotate (s : Session) (id key : String) (value : Value) (writer : String) :
    Bool × Session × List Notice :=
  let (stored, graph, notices) := s.graph.annotate id key value writer
  (stored, { s with graph }, notices)

/-- The inverse to look into, and the session that keeps it once the graph is frozen. -/
def lookUp (s : Session) : Inverse × Session :=
  match s.inverse with
  | some v => (v, s)
  | none =>
    let v := Inverse.ofGraph s.graph
    (v, if s.graph.frozen then { s with inverse := some v } else s)

/-- The parents of an identifier that either end of an edge knows of. -/
def linkedUplinks (s : Session) (id : String) : List String × Session :=
  let (v, s) := s.lookUp
  ((v.parentsOf id).foldl addNew (s.graph.uplinks id), s)

def linkedDownlinks (s : Session) (id : String) : List String × Session :=
  let (v, s) := s.lookUp
  ((v.childrenOf id).foldl addNew (s.graph.downlinks id), s)

end Session

end DocTrace.Graph
