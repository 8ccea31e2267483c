import DocTrace.Diagram.Basic
import DocTrace.Json.Printer
import DocTrace.Number.Reading
import DocTrace.Value.Display

/-!
Entries of the cache, one for each content, and their written form. Reading is
lenient: texts may be given by other values, which stand for what they show, and
fields that are not known are left aside.
-/

namespace DocTrace.AnalysisCache

def formatVersion : String := "1"

structure Entry where
  contentHash : String
  /-- When the entry was made, in milliseconds. -/
  timestamp : Int
  diagramType : String
  nodes : List String
  edges : List Edge
  /-- Where the content was found; only ever written back as it was read. -/
  filePath : Json
  labels : Table String String
  version : String := formatVersion

inductive Entry.Fault where
  | malformed
  | relationshipNotMapping
  | infiniteTimestamp
deriving DecidableEq

namespace Entry

def toAnalysis (e : Entry) : Analysis :=
  { diagramType := e.diagramType, nodes := e.nodes, edges := e.edges, labels := e.labels
    fromCache := true }

def ofAnalysis (hash : String) (timestamp : Int) (a : Analysis) (filePath : Option String) :
    Entry :=
  { contentHash := hash, timestamp, diagramType := a.diagramType, nodes := a.nodes
    edges := a.edges, filePath := .ofOption filePath, labels := a.labels }

def edgeToJson (e : Edge) : Json :=
  .object [("from", .str e.source), ("to", .str e.target), ("label", .ofOption e.label)]

def toJson (e : Entry) : Json :=
  .object [("contentHash", .str e.contentHash), ("timestamp", .int e.timestamp),
    ("diagramType", .str e.diagramType), ("nodes", .array (e.nodes.map .str)),
    ("relationships", .array (e.edges.map edgeToJson)), ("filePath", e.filePath),
    ("labels", .object (e.labels.entries.map fun (k, v) => (k, .str v))),
    ("version", .str e.version)]

def textOf (j : Json) : String := (Value.ofJson j).toText

def requiredText (j : Json) (key : String) : Except Fault String :=
  match j.member? key with
  | some v => .ok (textOf v)
  | none => .error .malformed

def edgeOf (j : Json) : Except Fault Edge :=
  match j with
  | .object _ => do
    let source ← requiredText j "from"
    let target ← requiredText j "to"
    let label := (j.member? "label").filter fun v => !v.isNull
    return { source, target, label := label.map textOf }
  | _ => .error .relationshipNotMapping

/-- An integer given by a number, a truth value or a text. -/
def timestampOf : Json → Except Fault Int
  | .bool b => .ok (if b then 1 else 0)
  | .int i => .ok i
  | .float x =>
    match x with
    | .nan => .error .malformed
    | x => (x.truncate?.map Except.ok).getD (.error .infiniteTimestamp)
  | .str s => (Number.readInt 10 s.toList).mapError fun _ => .malformed
  | _ => .error .malformed

def requiredTimestamp (j : Json) : Except Fault Int :=
  match j.member? "timestamp" with
  | some v => timestampOf v
  | none => .error .malformed

def requiredArray (j : Json) (key : String) : Except Fault (List Json) :=
  match j.member? key with
  | some (.array items) => .ok items
  | _ => .error .malformed

def labelsOf (j : Json) : Except Fault (Table String String) :=
  match (j.member? "labels").filter fun v => (Value.ofJson v).truthy with
  | none => .ok {}
  | some (.object members) => .ok (.ofList (members.map fun (k, v) => (k, textOf v)))
  | some _ => .error .malformed

def ofJson (key : String) (j : Json) : Except Fault Entry := do
  let nodes ← requiredArray j "nodes"
  let relationships ← requiredArray j "relationships"
  let labels ← labelsOf j
  let timestamp ← requiredTimestamp j
  let diagramType ← requiredText j "diagramType"
  let edges ← relationships.mapM edgeOf
  return {
    contentHash := ((j.member? "contentHash").map textOf).getD key
    timestamp, diagramType, nodes := nodes.map textOf, edges
    filePath := (j.member? "filePath").getD .null
    labels, version := ((j.member? "version").map textOf).getD formatVersion }

end Entry

end DocTrace.AnalysisCache
