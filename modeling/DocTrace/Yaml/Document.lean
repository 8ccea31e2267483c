import DocTrace.Yaml.Node
import DocTrace.Yaml.Shape

/-!
The value of a YAML document. A part that several collections share has its value
made once. A collection that lies on a cycle becomes a knot under its place.
-/

namespace DocTrace.Yaml

namespace Outline

/-- The nodes that some nodes lead to, besides those in `seen`. -/
def reach (o : Outline) (fuel : Nat) (seen : Array Bool) : List Nat → Array Bool
  | [] => seen
  | n :: rest =>
    match fuel with
    | 0 => seen
    | fuel + 1 =>
      if seen.getD n true then o.reach fuel seen rest
      else o.reach fuel (seen.setIfInBounds n true) (((o.shape? n).elim [] Shape.parts) ++ rest)

/-- How many parts all nodes name, each with the node itself. -/
def size (o : Outline) : Nat :=
  o.shapes.foldl (fun n shape => n + 1 + (shape.elim [] Shape.parts).length) 0

/-- Whether the parts of a node lead back to it. -/
def isCyclic (o : Outline) (n : Nat) : Bool :=
  let seen := Array.replicate o.shapes.size false
  (o.reach (2 * o.size) seen ((o.shape? n).elim [] Shape.parts)).getD n false

/-- The places of the knots; there are none unless an alias names a collection around it. -/
def knots (o : Outline) : Array Bool :=
  if o.graph.isRecursive then .ofFn fun n : Fin o.shapes.size => o.isCyclic n
  else Array.replicate o.shapes.size false

/-- A value and the labels that come back in it without their knots. -/
structure Part where
  value : Value
  free : List Nat := []

abbrev Parts := Array (Option Part)

def freeLabels (parts : List Part) : List Nat := (parts.flatMap (·.free)).eraseDups

def valuePairs : List Part → List (Value × Value)
  | first :: second :: rest => (first.value, second.value) :: valuePairs rest
  | _ => []

def keyValue (o : Outline) (n : Nat) : Value :=
  match o.shape? n with
  | some (.scalar v) => v
  | _ => .null

def assemble (o : Outline) (shape : Shape) (parts : List Part) : Value :=
  match shape with
  | .scalar v => v
  | .waiting => .null
  | .list _ => .list (parts.map (·.value))
  | .map entries => .map (List.zipWith (fun e p => (o.keyValue e.1, p.value)) entries parts)
  | .set keys => .set (keys.map o.keyValue)
  | .pairs _ => .list ((valuePairs parts).map fun p => .pair p.1 p.2)

/-- The value of a node inside of the knots at some places. A part that has been made serves
again where all its free labels are those of open knots. -/
def partAt (o : Outline) (isKnot : Array Bool) (fuel : Nat) (opened : List Nat) (n : Nat)
    (made : Parts) : Part × Parts :=
  match fuel with
  | 0 => (⟨.null, []⟩, made)
  | fuel + 1 =>
    let shape := (o.shape? n).getD .waiting
    if opened.contains n then (⟨.again n shape.isMapping, [n]⟩, made)
    else
      match ((made[n]?).join).filter fun part => part.free.all opened.contains with
      | some part => (part, made)
      | none =>
        let ties := isKnot.getD n false
        let inside := if ties then n :: opened else opened
        let (parts, made) := shape.parts.foldl (fun (parts, made) child =>
          let (part, made) := o.partAt isKnot fuel inside child made
          (part :: parts, made)) ([], made)
        let content := o.assemble shape parts.reverse
        let free := freeLabels parts
        let part : Part :=
          if ties then ⟨.knot n content, free.filter (· ≠ n)⟩ else ⟨content, free⟩
        (part, made.setIfInBounds n (some part))

/-- The value of a node. No way through the parts is longer than there are nodes. -/
def valueOf (o : Outline) (n : Nat) : Value :=
  (o.partAt o.knots (o.shapes.size + 1) [] n (Array.replicate o.shapes.size none)).1.value

end Outline

/-- The value of the only document of a text; an empty text stands for null. -/
def load (text : String) : Except Fault Value := do
  match ← Node.ofText text.toList with
  | none => return .null
  | some ⟨graph, root⟩ =>
    let o ← Outline.ofNode graph root
    return o.valueOf root

end DocTrace.Yaml
