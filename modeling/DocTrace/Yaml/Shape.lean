import DocTrace.Yaml.Merge
import DocTrace.Yaml.Scalar

/-!
What the values of nodes are made of. Collections are looked at level by level
from the root, so that of several faults the one on the highest level counts, and
on one level the first. A node is looked at once, however often it is named.
-/

namespace DocTrace.Yaml

/-- A scalar, or a collection by the places of its parts. -/
inductive Shape where
  | scalar (v : Value)
  /-- A collection whose parts are still to be looked at. -/
  | waiting
  | list (items : List Nat)
  | map (entries : List NodePair)
  | set (keys : List Nat)
  /-- The items of an ordered mapping, which are pairs. -/
  | pairs (items : List NodePair)

namespace Shape

def parts : Shape → List Nat
  | .list items => items
  | .map entries => entries.map (·.2)
  | .pairs items => items.flatMap fun e => [e.1, e.2]
  | _ => []

def isMapping : Shape → Bool
  | .map _ => true
  | _ => false

/-- The tag of a node whose parts are looked at on the next level. -/
def isCollectionTag (tag : Tag) : Bool := [Tag.seq, .map, .set, .omap, .pairs].contains tag

/-- The text of a scalar; a mapping may hold one under the value key. -/
def textOf (g : NodeGraph) (fuel n : Nat) : Except Fault (List Char) :=
  match (g.node n).content with
  | .scalar text => .ok text
  | .seq _ => .error .malformed
  | .map row =>
    match (g.entriesAt row).find? fun e => g.tag e.1 = .value, fuel with
    | none, _ => .error .malformed
    | some _, 0 => .error .tooDeep
    | some (_, value), fuel + 1 => textOf g fuel value

/-- The value of a node that is no collection. A node inside of itself has no text. -/
def scalarOf (g : NodeGraph) (n : Nat) : Except Fault Value :=
  match g.tag n with
  | .merge => .error .malformed
  | .value => .error .malformed
  | .other _ => .error .malformed
  | tag => do
    let text ← textOf g g.nodes.size n
    if tag = .timestamp && (g.row? n).isSome then .error .timestampMapping
    else Scalar.value tag text

end Shape

/-- The shapes of the nodes that have been looked at, and the collections that wait for the next
level, the last one first. -/
structure Outline where
  graph : NodeGraph
  /-- The number of entries before any merge. -/
  entryCount : Nat
  shapes : Array (Option Shape)
  waiting : List Nat := []

namespace Outline

def start (g : NodeGraph) : Outline :=
  { graph := g, entryCount := g.entryCount, shapes := Array.replicate g.nodes.size none }

def shape? (o : Outline) (n : Nat) : Option Shape := (o.shapes[n]?).join

def put (o : Outline) (n : Nat) (shape : Shape) : Outline :=
  { o with shapes := o.shapes.setIfInBounds n (some shape) }

def visit (o : Outline) (n : Nat) : Except Fault Outline :=
  if (o.shape? n).isSome then .ok o
  else if Shape.isCollectionTag (o.graph.tag n) then
    .ok { o.put n .waiting with waiting := n :: o.waiting }
  else (Shape.scalarOf o.graph n).map fun v => o.put n (.scalar v)

/-- Whether a value is the number that is written as `.nan`. -/
def isNamedNaN (o : Outline) (n : Nat) (v : Value) : Bool :=
  match v with
  | .float _ => ((Shape.textOf o.graph o.graph.nodes.size n).map Scalar.isNaN).toOption.getD false
  | _ => false

/-- Whether two keys are the same. All numbers that are written as `.nan` are one. -/
def sameKey (o : Outline) (a b : Nat) : Bool :=
  match o.shape? a, o.shape? b with
  | some (.scalar v), some (.scalar w) =>
    a = b || v.eqValue w || (o.isNamedNaN a v && o.isNamedNaN b w)
  | _, _ => false

/-- The entries of a mapping with one entry written under its key; the first key is kept. -/
def putEntry (o : Outline) (entries : List NodePair) (entry : NodePair) : List NodePair :=
  if entries.any fun e => o.sameKey e.1 entry.1 then
    entries.map fun e => if o.sameKey e.1 entry.1 then (e.1, entry.2) else e
  else entries ++ [entry]

/-- Looks at a key and its value. A collection is no key. -/
def visitEntry (o : Outline) (entry : NodePair) : Except Fault Outline := do
  if Shape.isCollectionTag (o.graph.tag entry.1) then .error .malformed
  let o ← o.visit entry.1
  o.visit entry.2

/-- The entries of a mapping, each looked at after its merge keys are replaced. -/
def visitMapping (o : Outline) (n : Nat) : Except Fault (List NodePair × Outline) :=
  if (o.graph.row? n).isNone then .error .malformed
  else do
    let graph ← o.graph.merge o.entryCount n
    let entries := ((graph.entries? n).getD #[]).toList
    let o ← entries.foldlM visitEntry { o with graph }
    return (entries.foldl o.putEntry [], o)

def onlyEntry? (g : NodeGraph) (n : Nat) : Option NodePair :=
  match (g.entries? n).map (·.toList) with
  | some [entry] => some entry
  | _ => none

/-- Looks at the items of an ordered mapping, each of which has one entry. -/
def visitPairs (o : Outline) : List Nat → Except Fault (List NodePair × Outline)
  | [] => .ok ([], o)
  | item :: rest =>
    match onlyEntry? o.graph item with
    | none => .error .malformed
    | some entry => do
      let o ← o.visit entry.1
      let o ← o.visit entry.2
      let (entries, o) ← o.visitPairs rest
      return (entry :: entries, o)

def fill (o : Outline) (n : Nat) : Except Fault Outline :=
  match o.graph.tag n, o.graph.items? n with
  | .map, _ => (o.visitMapping n).map fun (entries, o) => o.put n (.map entries)
  | .set, _ => (o.visitMapping n).map fun (entries, o) => o.put n (.set (entries.map (·.1)))
  | _, none => .error .malformed
  | .seq, some items => (items.foldlM visit o).map (·.put n (.list items))
  | _, some items => (o.visitPairs items).map fun (entries, o) => o.put n (.pairs entries)

/-- Fills all collections of a level, then those of the next level. There are no more levels than
nodes. -/
def fillLevels (fuel : Nat) (o : Outline) : Except Fault Outline :=
  match fuel with
  | 0 => .ok o
  | fuel + 1 =>
    if o.waiting.isEmpty then .ok o
    else do
      let o ← o.waiting.reverse.foldlM fill { o with waiting := [] }
      fillLevels fuel o

def ofNode (g : NodeGraph) (root : Nat) : Except Fault Outline := do
  let o ← (start g).visit root
  fillLevels (g.nodes.size + 1) o

theorem shape?_put_self {o : Outline} {n : Nat} (h : n < o.shapes.size) (shape : Shape) :
    (o.put n shape).shape? n = some shape := by
  simp [put, shape?, h]

end Outline

end DocTrace.Yaml
