import DocTrace.Asset
import DocTrace.Path.Glob

/-!
Rules: what they apply to, how severe their violations are, and which checks they
run. A rule of the project runs once; every other one runs for each document
that its target selects.
-/

namespace DocTrace

namespace Rule

inductive Level where
  | project
  | folder
  | file
  | node
deriving DecidableEq

def Level.name : Level → String
  | .project => "project"
  | .folder => "folder"
  | .file => "file"
  | .node => "node"

def Level.all : List Level := [.file, .folder, .node, .project]

inductive Category where
  | structural
  | syntactic
  | metadata
  | traceability
deriving DecidableEq

def Category.name : Category → String
  | .structural => "structural"
  | .syntactic => "syntax"
  | .metadata => "metadata"
  | .traceability => "traceability"

def Category.all : List Category := [.metadata, .structural, .syntactic, .traceability]

inductive Enforcement where
  | error
  | warning
deriving DecidableEq

def Enforcement.name : Enforcement → String
  | .error => "error"
  | .warning => "warning"

def Enforcement.all : List Enforcement := [.error, .warning]

structure Hub where
  id : String
  title : String
deriving DecidableEq

/-- Documents by the beginning of their identifier or by their path. -/
structure Target where
  idPrefix : Option String := none
  pathPattern : Option String := none
deriving DecidableEq

namespace Target

/-- An empty text is no criterion. -/
def selectsId (t : Target) (id : Option String) : Bool :=
  match t.idPrefix, id with
  | some start, some id => start ≠ "" && id ≠ "" && Text.beginsWith start id
  | _, _ => false

def selectsPath (t : Target) (path : String) : Bool :=
  match t.pathPattern with
  | some pattern => pattern ≠ "" && (Glob.ofPattern pattern).accepts path
  | none => false

def selects (t : Target) (a : Asset) : Bool := t.selectsId a.header.id || t.selectsPath a.path

def folder? (t : Target) : Option String := (t.pathPattern.filter (· ≠ "")).bind Glob.folder?

end Target

inductive Named where
  | personaGate
  | journeyTrace
  | footnotesPolicy
  | filenameId
  | idPrefix
  | headerSchema
  | documentPlacement
  | folderRegistry
  | duplicateIds
  | danglingReferences
  | globalTraceability
  | linkReciprocity
  | personaDiversity
  | personaRequirementTrace
  | journeyIntegrity
  | flowRequirementTrace
deriving DecidableEq

namespace Named

def name : Named → String
  | .personaGate => "persona-gate"
  | .journeyTrace => "journey-syntax"
  | .footnotesPolicy => "footnotes-policy"
  | .filenameId => "filename-id"
  | .idPrefix => "id-prefix"
  | .headerSchema => "front-matter-schema"
  | .documentPlacement => "document-placement"
  | .folderRegistry => "folder-registry"
  | .duplicateIds => "duplicate-ids"
  | .danglingReferences => "dangling-references"
  | .globalTraceability => "global-traceability"
  | .linkReciprocity => "link-reciprocity"
  | .personaDiversity => "persona-diversity"
  | .personaRequirementTrace => "persona-requirement-trace"
  | .journeyIntegrity => "journey-integrity"
  | .flowRequirementTrace => "flow-requirement-trace"

def all : List Named :=
  [.danglingReferences, .documentPlacement, .duplicateIds, .filenameId, .flowRequirementTrace,
    .folderRegistry, .footnotesPolicy, .headerSchema, .globalTraceability, .idPrefix,
    .journeyIntegrity, .journeyTrace, .linkReciprocity, .personaDiversity, .personaGate,
    .personaRequirementTrace]

def ofName? (name : String) : Option Named := all.find? (·.name = name)

end Named

inductive Check where
  /-- The first line of a diagram begins with one of the keywords. -/
  | opensWith (keywords : List String)
  | requiredFields (fields : List String)
  | extension (wanted : String)
  | requiredNodes (nodes : List String)
  /-- Every declared identifier is referred to. -/
  | linked
  | named (check : Named)
deriving DecidableEq

end Rule

structure Rule where
  id : String
  name : String
  description : String := ""
  level : Rule.Level := .file
  target : Rule.Target := {}
  category : Rule.Category := .structural
  enforcement : Rule.Enforcement := .error
  hub : Option Rule.Hub := none
  checks : List Rule.Check := []
  checkName : Option Rule.Named := none
deriving DecidableEq

namespace Rule

def isProject (r : Rule) : Bool := r.level = .project

def appliesTo (r : Rule) (a : Asset) : Bool := !r.isProject && r.target.selects a

end Rule

end DocTrace
