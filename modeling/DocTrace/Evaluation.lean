import DocTrace.Graph.Assembly
import DocTrace.Inspection.Structure
import DocTrace.Inspection.Traceability

/-!
Rules are evaluated on a frozen graph: for each document those that apply to it,
in the order of the rules, and after all documents those of the project. Nothing
stops early; a check that breaks off is reported as a violation of its rule.
-/

namespace DocTrace

structure Violation where
  ruleId : String
  ruleName : String
  ruleType : String
  severity : String
  file : Option String := none
  id : Option String := none
  message : String
deriving DecidableEq

namespace Rule

/-- Checks of a document have nothing to report for the project. -/
def forDocument (a : Option Asset) (f : Asset → List Finding) :
    Except Finding.Crash (List Finding) := .ok (a.elim [] f)

def messagesFor (a : Option Asset) (f : Asset → List String) :
    Except Finding.Crash (List Finding) := forDocument a fun a => Finding.ofMessages (f a)

def Named.report (g : Graph) (a : Option Asset) : Named → Except Finding.Crash (List Finding)
  | .personaGate => messagesFor a fun a => (Inspection.personaGate g a).messages
  | .journeyTrace => messagesFor a (Inspection.journeyTrace g)
  | .footnotesPolicy => messagesFor a Inspection.footnotesPolicy
  | .filenameId => messagesFor a Inspection.filenameId
  | .idPrefix => messagesFor a (Inspection.idPrefix g)
  | .headerSchema => messagesFor a Inspection.headerSchema
  | .documentPlacement => Inspection.documentPlacement g
  | .folderRegistry => .ok (Inspection.folderRegistry g)
  | .duplicateIds => .ok (Inspection.duplicateIds g)
  | .danglingReferences => .ok (Inspection.danglingReferences g)
  | .globalTraceability => .ok (Inspection.globalTraceability g)
  | .linkReciprocity => .ok (Inspection.linkReciprocity g)
  | .personaDiversity => .ok (Finding.ofMessages (Inspection.personaDiversity g))
  | .personaRequirementTrace => .ok (Inspection.personaRequirementTrace g)
  | .journeyIntegrity => .ok (Inspection.journeyIntegrity g)
  | .flowRequirementTrace => .ok (Inspection.flowRequirementTrace g)

/-- What a check reports for a document, or for the project. -/
def Check.report (g : Graph) (a : Option Asset) : Check → Except Finding.Crash (List Finding)
  | .opensWith keywords => messagesFor a (Inspection.wrongOpening keywords)
  | .requiredFields fields => messagesFor a (Inspection.missingFields fields)
  | .extension wanted => messagesFor a (Inspection.wrongExtension wanted)
  | .requiredNodes nodes => messagesFor a (Inspection.missingNodes nodes g)
  | .linked => forDocument a (Inspection.unlinkedIds g)
  | .named check => check.report g a

/-- What a check of a rule writes to the graph: the type of a persona. -/
def Check.record (g : Graph) (a : Option Asset) (writer : String) :
    Check → Graph × List Notice
  | .named .personaGate =>
    let found := a.bind fun a =>
      a.id?.bind fun id => (Inspection.personaGate g a).personaType.map (id, ·)
    match found with
    | some (id, personaType) => (g.annotate id Inspection.personaTypeKey (.str personaType) writer).2
    | none => (g, [])
  | _ => (g, [])

/-- The findings of some checks that run one after the other, the graph after
them, and the notices. -/
def runChecks (writer : String) (a : Option Asset) (g : Graph) :
    List Check → Except Finding.Crash (List Finding) × Graph × List Notice
  | [] => (.ok [], g, [])
  | check :: rest =>
    match check.report g a with
    -- The findings of the checks before it are lost, what they recorded is not.
    | .error crash => (.error crash, g, [])
    | .ok findings =>
      let (g, notices) := check.record g a writer
      let (more, g, others) := runChecks writer a g rest
      (more.map (findings ++ ·), g, notices ++ others)

def findings (r : Rule) (a : Option Asset) (g : Graph) :
    Except Finding.Crash (List Finding) × Graph × List Notice := runChecks r.id a g r.checks

/-- A finding as a violation. What it does not say itself is taken from the document. -/
def violationOf (r : Rule) (a : Option Asset) (f : Finding) : Violation :=
  { ruleId := r.id, ruleName := r.name, ruleType := r.category.name,
    severity := r.enforcement.name
    file := (f.file.filter (· ≠ "")).or (a.map (·.path))
    id := (f.id.filter (· ≠ "")).or (a.bind (·.header.id))
    message := f.message }

/-- The violation that a check which breaks off leads to. -/
def crashOf (r : Rule) (a : Option Asset) (crash : Finding.Crash) : Violation :=
  { ruleId := r.id, ruleName := r.name, ruleType := r.category.name, severity := "error"
    file := a.map (·.path), id := a.bind (·.header.id)
    message := "Rule crashed: " ++ crash.message }

def run (r : Rule) (a : Option Asset) (g : Graph) : List Violation × Graph × List Notice :=
  match r.findings a g with
  | (.ok findings, g, notices) => (findings.map (r.violationOf a), g, notices)
  | (.error crash, g, notices) =>
    let place := ((a.map (·.path)).filter (· ≠ "")).getD "project"
    ([r.crashOf a crash], g, notices ++ [.ruleCrashed r.id place])

/-- The rules to run in their order, each with its document if it has one. -/
def schedule (rules : List Rule) (assets : List Asset) : List (Rule × Option Asset) :=
  (assets.flatMap fun a => (rules.filter (·.appliesTo a)).map (·, some a)) ++
    (rules.filter isProject).map (·, none)

def runAll (g : Graph) : List (Rule × Option Asset) → List Violation × Graph × List Notice
  | [] => ([], g, [])
  | (r, a) :: rest =>
    let (violations, g, notices) := r.run a g
    let (more, g, others) := runAll g rest
    (violations ++ more, g, notices ++ others)

/-- All violations of the rules, and the graph with what the checks recorded. -/
def evaluate (rules : List Rule) (assets : List Asset) (g : Graph) :
    List Violation × Graph × List Notice := runAll g.freeze (schedule rules assets)

end Rule

end DocTrace
