import DocTrace.Inspection.Document
import DocTrace.Inspection.Persona

/-!
Checks of the links between documents.
-/

namespace DocTrace.Inspection

open Finding (quoted)

def isRequirement (id : String) : Bool := Text.beginsWith "REQ_" id

def isPersona (id : String) : Bool := Text.beginsWith "PER_" id

/-- A requirement is functional by its classification, or without one by standing for a file. -/
def isFunctional (g : Graph) (id : String) : Bool :=
  match (g.metadata? id Graph.classificationKey).filter Value.truthy with
  | some classification => Text.lowerString classification.toText = "functional"
  | none => ((g.metadata? id Graph.fileRootKey).map Value.truthy).getD false

def hasParentRequirement (g : Graph) (id : String) : Bool :=
  (g.linkedUplinks id).any isRequirement

/-- A finding about a declared identifier and its file. -/
def about (g : Graph) (id message : String) : Finding :=
  { message, file := g.idToFile.find? id, id := some id }

def danglingReferences (g : Graph) : List Finding :=
  (g.declaredLinks.filter fun l => !g.isDeclared l.target && !g.exemptIds.contains l.target).map
    fun l =>
      { message := "Dangling reference: " ++ quoted l.source ++ s!" declares {l.kind.name} " ++
          quoted l.target ++ ", which is not declared anywhere"
        file := some l.file
        id := some l.source }

def globalTraceability (g : Graph) : List Finding :=
  (g.declaredIds.filter fun id => !isReferenced g id).map fun id =>
    about g id ("Orphan detected: " ++ quoted id ++
      " is disconnected from the graph; mention it " ++
      "in a diagram, link it from another document or place it in a hub folder")

/-- Downlinks whose other end is declared, each pair of ends once. -/
def distinctDownlinks (g : Graph) (seen : List (String × String)) :
    List Graph.Link → List Graph.Link
  | [] => []
  | l :: rest =>
    if l.kind ≠ .downlink || !g.isDeclared l.target || seen.contains (l.source, l.target) then
      distinctDownlinks g seen rest
    else l :: distinctDownlinks g ((l.source, l.target) :: seen) rest

def linkReciprocity (g : Graph) : List Finding :=
  ((distinctDownlinks g [] g.declaredLinks).filter fun l =>
      !(g.uplinks l.target).contains l.source).map fun l =>
    { message := "Asymmetric link: " ++ quoted l.source ++ " lists " ++ quoted l.target ++
        " as a downlink, but " ++ quoted l.target ++ " has no uplink to " ++ quoted l.source
      file := some l.file
      id := some l.source }

def personaTrace (g : Graph) (id : String) : List Finding :=
  let requirements := (g.linkedDownlinks id).filter isRequirement
  (if requirements.isEmpty then
    [about g id ("Persona " ++ quoted id ++ " has no associated requirements; " ++
      "every persona must drive at least one main REQ_ node")]
  else []) ++
    (requirements.filter (hasParentRequirement g)).map fun r =>
      about g id ("Persona " ++ quoted id ++ " is linked to sub-requirement " ++ quoted r ++
        "; link the main requirement instead")

def requirementTrace (g : Graph) (id : String) : List Finding :=
  if hasParentRequirement g id || (g.linkedUplinks id).any isPersona then []
  else [about g id ("Main requirement " ++ quoted id ++ " has no linked persona")]

def personaRequirementTrace (g : Graph) : List Finding :=
  g.declaredIds.flatMap fun id =>
    if isPersona id then personaTrace g id
    else if isRequirement id then requirementTrace g id
    else []

/-- The parents of a journey and the requirements below it. -/
def coveredBy (g : Graph) (journey : String) : List String :=
  g.linkedUplinks journey ++ (g.linkedDownlinks journey).filter isRequirement

def journeyIntegrity (g : Graph) : List Finding :=
  let covered := (declaredWith g "JRN_").flatMap (coveredBy g)
  let personas := (declaredWith g "PER_").flatMap fun id =>
    let personaType := personaTypeIn g id "actor"
    if behavioralTypes.contains (Text.lowerString personaType) && !covered.contains id then
      [about g id (s!"{Text.capitalize personaType} persona " ++ quoted id ++
        " has no associated journey")]
    else []
  let requirements := (declaredWith g "REQ_").filter fun id =>
    isFunctional g id && !covered.contains id
  personas ++ requirements.map fun id =>
    about g id ("Functional requirement " ++ quoted id ++ " is not validated by any journey")

def isTraceGoal (g : Graph) (id : String) : Bool := isRequirement id && isFunctional g id

/-- Searches the parents of the queued identifiers, breadth first. Every step takes
one identifier from the queue, and none is queued twice. -/
def searchUp (g : Graph) (fuel : Nat) (seen queue : List String) : Bool :=
  match fuel, queue with
  | fuel + 1, id :: rest =>
    let parents := (g.linkedUplinks id).filter fun p => !seen.contains p
    parents.any (isTraceGoal g) || searchUp g fuel (seen ++ parents) (rest ++ parents)
  | _, _ => false

/-- As many steps as there are nodes and uplinks, and one for the start. -/
def searchFuel (g : Graph) : Nat :=
  g.nodes.entries.foldl (fun fuel e => fuel + e.2.uplinks.length) (g.nodes.size + 1)

def tracesToRequirement (g : Graph) (id : String) : Bool := searchUp g (searchFuel g) [id] [id]

def flowRequirementTrace (g : Graph) : List Finding :=
  ((declaredWith g "FLOW_").filter fun id => !tracesToRequirement g id).map fun id =>
    about g id ("Flow " ++ quoted id ++ " does not trace to any functional requirement")

end DocTrace.Inspection
