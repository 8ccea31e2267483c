import DocTrace.Finding
import DocTrace.Graph.Basic

/-!
Personas: the branches of their mindmaps and their types. The type that a
mindmap gives is written to the graph, where the checks of the project read it.
-/

namespace DocTrace.Inspection

open Finding (quoted bracketed)

def personaTypes : List String := ["actor", "influencer", "guardian", "proxy"]

def behavioralTypes : List String := ["actor", "proxy"]

def personaTypeKey : String := "personaType"

def personaBranches : List String := ["Role", "Description", "Goals"]

def personaSemanticIds : List String := ["ROLE", "DESCRIPTION"]

/-- A text without blanks around it, unless it is empty. -/
def filled? (s : List Char) : Option String :=
  let s := Text.trim s
  if s.isEmpty then none else some (.ofList s)

/-- The type that one node gives, if it is a type node: after a colon, in
parentheses, or as its label. -/
def typeOfNode? (labels : Table String String) (node : String) : Option (Option String) :=
  let low := Text.lower node.toList
  match Text.after? "type:".toList low with
  | some rest => some (filled? rest)
  | none =>
    match Text.after? "type(".toList low with
    | some rest =>
      if rest.getLast? = some ')' then some (filled? rest.dropLast) else none
    | none =>
      if low = "type".toList then
        some ((labels.find? node).bind fun label =>
          if label = "" then none else some (.ofList (Text.lower (Text.trim label.toList))))
      else none

structure PersonaGate where
  messages : List String
  /-- The type, if it is one of the known ones. -/
  personaType : Option String

def missingTypeMessage : String :=
  "Persona mindmap: missing mandatory \"Type: <value>\" node (e.g. Type: Actor)"

def invalidTypeMessage (value : String) : String :=
  "Persona mindmap: invalid persona type " ++ quoted value ++ ", must be one of " ++
    bracketed (personaTypes.map Text.capitalize)

/-- The branches, the semantic identifiers and the type of a persona mindmap. -/
def personaGateOf (nodes : List String) (labels : Table String String) : PersonaGate :=
  let names := nodes.map Text.lowerString ++ labels.entries.map fun e => Text.lowerString e.2
  let branches := (personaBranches.filter fun b => !names.contains (Text.lowerString b)).map
    fun b => "Persona mindmap: missing required branch " ++ quoted b
  let semantic := (personaSemanticIds.filter fun id => !nodes.contains id).map fun id =>
    "Persona mindmap: missing required semantic id " ++ quoted id ++ s!" (e.g. {id}[\"...\"])"
  let goals :=
    if nodes.any (Text.beginsWith "GOAL_") then []
    else ["Persona mindmap: missing semantic id \"GOAL_N\" (at least one goal)"]
  let messages := branches ++ semantic ++ goals
  match Text.firstSome (typeOfNode? labels) nodes with
  | none => ⟨messages ++ [missingTypeMessage], none⟩
  | some value =>
    match value.filter personaTypes.contains with
    | some known => ⟨messages, some known⟩
    | none => ⟨messages ++ [invalidTypeMessage (value.getD "")], none⟩

/-- Notes have no mindmap to look at. -/
def personaGate (g : Graph) (a : Asset) : PersonaGate :=
  if !a.isDiagram then ⟨[], none⟩
  else
    let analysis := g.analyses.find? a.path
    personaGateOf ((analysis.map Analysis.nodes).getD [])
      ((analysis.map Analysis.labels).getD {})

def declaredWith (g : Graph) (start : String) : List String :=
  g.declaredIds.filter (Text.beginsWith start)

def personaTypeIn (g : Graph) (id default : String) : String :=
  ((g.metadata? id personaTypeKey).map Value.toText).getD default

def personaDiversity (g : Graph) : List String :=
  let personas := declaredWith g "PER_"
  let found := (personas.filter g.nodes.contains).map fun id =>
    Text.lowerString (personaTypeIn g id "")
  let missing := personaTypes.filter fun t => !found.contains t
  if personas.isEmpty || missing.isEmpty then []
  else ["Missing persona types: " ++ bracketed (missing.map Text.capitalize)]

end DocTrace.Inspection
