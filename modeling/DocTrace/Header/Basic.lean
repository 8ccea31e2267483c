import DocTrace.Text.Blank
import DocTrace.Text.Split
import DocTrace.Value.Display

/-!
The header of a document: what it declares about itself and about the entities
inside of it, and what is wrong with it. The beginning of its identifier tells
which kind of document it is.
-/

namespace DocTrace

structure Entity where
  id : String
  uplink : Option String := none
  downlinks : Option (List String) := none
  requirements : Option (List String) := none
  classification : Option String := none
  extra : Mapping := []

inductive HeaderKind where
  | generic
  | persona
  | requirement
  | journey
  | component
deriving DecidableEq

namespace HeaderKind

def name : HeaderKind → String
  | .generic => "generic"
  | .persona => "persona"
  | .requirement => "requirement"
  | .journey => "journey"
  | .component => "component"

def beginnings : List (String × HeaderKind) :=
  [("PER_", .persona), ("REQ_", .requirement), ("JRN_", .journey), ("COMP_", .component)]

def ofId : Option String → HeaderKind
  | none => .generic
  | some id =>
    ((beginnings.find? fun b => Text.beginsWith b.1 id).map (·.2)).getD .generic

end HeaderKind

/-- What is wrong with a header; a place is the index of an entity, or none for the document. -/
inductive HeaderError where
  | notText (place : Option Nat) (key kind : String)
  | notList (place : Option Nat) (key : String)
  | badItem (place : Option Nat) (key : String) (index : Nat)
  | entitiesNotList
  | entityNotMapping (index : Nat)
  | entityWithoutId (index : Nat)
  | malformed
  | notMapping
  | reported (text : String)
deriving DecidableEq

namespace HeaderError

def placeText : Option Nat → String
  | none => ""
  | some index => s!"entities[{index}]."

def message : HeaderError → String
  | .notText place key kind => placeText place ++ s!"'{key}' must be a string, got {kind}"
  | .notList place key => placeText place ++ s!"'{key}' must be a list of identifiers"
  | .badItem place key index =>
    placeText place ++ s!"'{key}[{index}]' must be a non-empty string"
  | .entitiesNotList => "'entities' must be a list"
  | .entityNotMapping index => s!"entities[{index}] must be a mapping"
  | .entityWithoutId index => s!"entities[{index}] is missing 'id'"
  | .malformed => "invalid YAML front matter: <yaml error>"
  | .notMapping => "front matter must be a YAML mapping"
  | .reported text => text

end HeaderError

structure Header where
  kind : HeaderKind := .generic
  id : Option String := none
  title : Option String := none
  description : Option String := none
  uplink : Option String := none
  downlinks : Option (List String) := none
  requirements : Option (List String) := none
  entities : List Entity := []
  /-- Only headers of requirements have one. -/
  classification : Option String := none
  extra : Fields := {}
  errors : List HeaderError := []
  raw : Fields := {}

namespace Header

/-- Whether the document had anything to say in a header. -/
def declared (h : Header) : Bool := h.raw.size ≠ 0 || !h.errors.isEmpty

def get? (h : Header) (key : String) : Option Value := h.raw.find? key

/-- Whether a key is declared with a value that is not empty. -/
def has (h : Header) (key : String) : Bool :=
  match h.get? key with
  | none => false
  | some .null => false
  | some (.str s) => !(Text.trim s.toList).isEmpty
  | some (.list items) => !items.isEmpty
  | some (.map entries) => !entries.isEmpty
  | some _ => true

/-- The identifier of the document and those of its entities. -/
def allIds (h : Header) : List String :=
  (h.id.filter (· ≠ "")).toList ++ h.entities.map (·.id)

/-- The classification that the document declares for itself, unless it is empty. -/
def classificationText (h : Header) : Option String :=
  if h.kind = .requirement then h.classification.filter (· ≠ "")
  else ((h.get? "classification").filter Value.truthy).map Value.toText

/-- Whether the classification of the document has a text. -/
def canClassify (h : Header) : Bool :=
  h.kind = .requirement || (h.get? "classification").all Value.isShowable

def id? (h : Header) : Option String := h.id.filter (· ≠ "")

end Header

end DocTrace
