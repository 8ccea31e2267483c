import DocTrace.Yaml.Fault
import DocTrace.Yaml.NodeGraph

/-!
Merge keys. The entries of the mappings that a merge key names come before the
own ones of its mapping, which loses the key. A mapping may name itself or one
that is being merged: what it has then is brought in. A value key becomes a text.
-/

namespace DocTrace.Yaml.NodeGraph

/-- The number of steps that pass all entries of a mapping. -/
def stepsOf (g : NodeGraph) (n : Nat) : Nat := ((g.entries? n).getD #[]).size + 1

/-- Merges the mapping `n`, whose entries from `index` on are still to be looked at, after its merge
keys have brought in something. -/
abbrev Merging := (steps n index : Nat) → (brought : Array NodePair) → NodeGraph →
  Except Fault NodeGraph

/-- Merges some mappings one after the other, and gives the rows that they have then. -/
def mergeAll (merging : Merging) (g : NodeGraph) : List Nat → Except Fault (List Nat × NodeGraph)
  | [] => .ok ([], g)
  | item :: rest =>
    match (g.node item).content with
    | .map _ => do
      let g ← merging (g.stepsOf item) item 0 #[] g
      let row := (g.row? item).getD 0
      let (rows, g) ← mergeAll merging g rest
      return (row :: rows, g)
    | _ => .error .malformed

/-- The entries that a merge key brings in, for one mapping or for several of which the last
comes first. -/
def broughtBy (merging : Merging) (value : Nat) (g : NodeGraph) :
    Except Fault (Array NodePair × NodeGraph) :=
  match (g.node value).content with
  | .map _ => do
    let g ← merging (g.stepsOf value) value 0 #[] g
    return ((g.entries? value).getD #[], g)
  | .seq items => do
    let (rows, g) ← mergeAll merging g items
    return (rows.reverse.foldl (fun all row => all ++ g.entriesAt row) #[], g)
  | .scalar _ => .error .malformed

/-- Passes the entries that are no merge keys, and goes on with the value of the first merge key. -/
def passEntries
    (onMerge : (value index : Nat) → Array NodePair → NodeGraph → Except Fault NodeGraph)
    (n : Nat) :
    (steps index : Nat) → (brought : Array NodePair) → NodeGraph → Except Fault NodeGraph
  | steps, index, brought, g =>
    match (g.entries? n).bind (·[index]?) with
    | none =>
      -- Of two entries with one key the later counts, so the own ones stand last.
      .ok (if brought.isEmpty then g else g.putEntries n (brought ++ (g.entries? n).getD #[]))
    | some (key, value) =>
      if g.tag key = .merge then onMerge value index brought g
      else
        match steps with
        | 0 => .error .tooDeep
        | steps + 1 =>
          passEntries onMerge n steps (index + 1) brought
            (if g.tag key = .value then g.setTag key .str else g)

/-- Merges a mapping. There are at most `fuel` merge keys, and a merge key that is taken away is not
looked at again. -/
def mergeFrom : (fuel : Nat) → Merging
  | 0 => fun steps n index brought g =>
    passEntries (fun _ _ _ _ => .error .tooDeep) n steps index brought g
  | fuel + 1 => fun steps n index brought g =>
    passEntries (fun value index brought g => do
      let (more, g) ← broughtBy (mergeFrom fuel) value (g.dropEntry ((g.row? n).getD 0) index)
      mergeFrom fuel (g.stepsOf n) n index (brought ++ more) g) n steps index brought g

def entryCount (g : NodeGraph) : Nat := g.rows.foldl (fun n row => n + row.size) 0

/-- Merges a mapping of a graph that had at most `fuel` entries before any merge. -/
def merge (fuel : Nat) (n : Nat) (g : NodeGraph) : Except Fault NodeGraph :=
  mergeFrom fuel (g.stepsOf n) n 0 #[] g

end DocTrace.Yaml.NodeGraph
