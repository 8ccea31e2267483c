import DocTrace.Rule.Basic
import DocTrace.Yaml.Fault

/-!
From the fields of a rule mapping to the rule. The fields are looked at in a
fixed order, and the first one that is wrong is reported.
-/

namespace DocTrace.Rule

inductive Fault where
  | noId
  /-- A field whose value is none of those allowed. -/
  | badChoice (rule key value : String) (allowed : List String)
  | badHub (rule : String)
  | checksNotMapping (rule : String)
  | notTexts (rule key : String)
  | badExtension (rule : String)
  | traceabilityNotMapping (rule : String)
  | unknownCheck (rule check : String)
  /-- The name of a check is a collection. -/
  | checkNotName
  | noChecks (rule : String)
  | targetNotMapping (rule : String)
  | badTarget (rule key : String)
  | noTarget (rule : String) (level : Level)
  /-- A field that is taken as text, with an integer that has too many digits for it. -/
  | notShown
deriving DecidableEq

def listing (names : List String) : String := (Value.list (names.map .str)).toLiteral

def Fault.message : Fault → String
  | .noId => "rule is missing required 'id' field"
  | .badChoice rule key value allowed =>
    s!"Rule '{rule}': invalid {key} '{value}', must be one of {listing allowed}"
  | .badHub rule => s!"Rule '{rule}': 'hub' must be a mapping with an 'id'"
  | .checksNotMapping rule => s!"Rule '{rule}': 'checks' must be a mapping"
  | .notTexts rule key => s!"Rule '{rule}' {key} must be a string or a list of strings"
  | .badExtension rule => s!"Rule '{rule}': requiredExtension must be a non-empty string"
  | .traceabilityNotMapping rule => s!"Rule '{rule}': checks.traceability must be a mapping"
  | .unknownCheck rule check =>
    s!"Rule '{rule}': unknown check '{check}', must be one of {listing (Named.all.map Named.name)}"
  | .checkNotName => "unhashable type"
  | .noChecks rule => s!"Rule '{rule}': no 'check' implementation and no 'checks' block"
  | .targetNotMapping rule => s!"Rule '{rule}': 'target' must be a mapping"
  | .badTarget rule key => s!"Rule '{rule}': target.{key} must be a non-empty string"
  | .noTarget rule level =>
    s!"Rule '{rule}': {level.name} rules need target.idPrefix or target.pathPattern"
  | .notShown => Yaml.Fault.tooManyDigits

def present? (m : Mapping) (key : String) : Option Value :=
  (m.find? key).filter fun v => !v.isNull

def idOf (m : Mapping) : Except Fault String :=
  match m.find? "id" with
  | some (.str s) => if (Text.trim s.toList).isEmpty then .error .noId else .ok s
  | _ => .error .noId

def textOf (v : Value) : Except Fault String :=
  if v.isShowable then .ok v.toText else .error .notShown

def fieldText (m : Mapping) (key default : String) : Except Fault String :=
  (m.find? key).elim (.ok default) textOf

def choice (rule : String) (m : Mapping) (key default : String) (name : α → String)
    (options : List α) : Except Fault α :=
  (fieldText m key default).bind fun given =>
    match options.find? fun o => name o = given with
    | some o => .ok o
    | none => .error (.badChoice rule key given (options.map name))

def enforcementOf (rule : String) (m : Mapping) : Except Fault Enforcement :=
  (fieldText m "enforcement" "error").bind fun given =>
    if given = "warn" then .ok .warning
    else choice rule m "enforcement" "error" Enforcement.name Enforcement.all

def hubOf (rule : String) (m : Mapping) : Except Fault (Option Hub) :=
  match present? m "hub" with
  | none => .ok none
  | some v =>
    match v.asMap?.bind fun hub => ((hub.find? "id").bind Value.asString?).map (hub, ·) with
    | some (hub, id) => (fieldText hub "title" id).map fun title => some ⟨id, title⟩
    | none => .error (.badHub rule)

/-- A text stands for the list of itself. -/
def textsOf (rule key : String) : Value → Except Fault (List String)
  | .str s => .ok [s]
  | v =>
    match v.asList?.bind (·.mapM Value.asString?) with
    | some ss => .ok ss
    | none => .error (.notTexts rule key)

/-- A check that lists texts, if its field has a value. -/
def textsCheck (rule : String) (m : Mapping) (key : String) (check : List String → Check) :
    Except Fault (List Check) :=
  match present? m key with
  | none => .ok []
  | some v => (textsOf rule key v).map fun ss => [check ss]

def extensionCheck (rule : String) (m : Mapping) : Except Fault (List Check) :=
  match present? m "requiredExtension" with
  | none => .ok []
  | some (.str s) =>
    if (Text.trim s.toList).isEmpty then .error (.badExtension rule) else .ok [.extension s]
  | some _ => .error (.badExtension rule)

def linkedCheck (rule : String) (m : Mapping) : Except Fault (List Check) :=
  match present? m "traceability" with
  | none => .ok []
  | some v =>
    match v.asMap? with
    | none => .error (.traceabilityNotMapping rule)
    | some t => .ok (if ((t.find? "mustBeLinked").map Value.truthy).getD false then [.linked] else [])

/-- The checks that a rule declares itself, in the order in which they run. -/
def declaredChecks (rule : String) (m : Mapping) : Except Fault (List Check) :=
  match present? m "checks" with
  | none => .ok []
  | some v =>
    match v.asMap? with
    | none => .error (.checksNotMapping rule)
    | some checks => do
      let keywords ← textsCheck rule checks "mermaidType" .opensWith
      let fields ← textsCheck rule checks "requiredFrontmatter" .requiredFields
      let ending ← extensionCheck rule checks
      let nodes ← textsCheck rule checks "requiredNodes" .requiredNodes
      let linked ← linkedCheck rule checks
      return keywords ++ fields ++ ending ++ nodes ++ linked

/-- The check that a rule names, or else the one that has the rule's identifier. -/
def namedCheck (rule : String) (m : Mapping) : Except Fault (Option Named) :=
  match present? m "check" with
  | none => .ok (Named.ofName? rule)
  | some v =>
    if !v.isHashable then .error .checkNotName
    else
      match v.asString?.bind Named.ofName? with
      | some check => .ok (some check)
      | none => (textOf v).bind fun check => .error (.unknownCheck rule check)

/-- A field of the target that may have either of two names. -/
def targetField (rule : String) (target : Mapping) (key other : String) :
    Except Fault (Option String) :=
  match (target.find? key).or (target.find? other) with
  | none => .ok none
  | some .null => .ok none
  | some (.str s) => if s = "" then .error (.badTarget rule key) else .ok (some s)
  | some _ => .error (.badTarget rule key)

def targetOf (rule : String) (level : Level) (m : Mapping) : Except Fault Target := do
  let target ←
    match present? m "target" with
    | none => .ok []
    | some v =>
      match v.asMap? with
      | some target => .ok target
      | none => .error (.targetNotMapping rule)
  let idPrefix ← targetField rule target "idPrefix" "id_prefix"
  let pathPattern ← targetField rule target "pathPattern" "path_pattern"
  if level ≠ .project && idPrefix.isNone && pathPattern.isNone then .error (.noTarget rule level)
  else return { idPrefix, pathPattern }

/-- The text of a field that counts as true, or a default. -/
def filledText (m : Mapping) (key default : String) : Except Fault String :=
  ((m.find? key).filter Value.truthy).elim (.ok default) textOf

def ofMapping (m : Mapping) : Except Fault Rule := do
  let id ← idOf m
  let level ← choice id m "level" "file" Level.name Level.all
  let category ← choice id m "type" "structural" Category.name Category.all
  let enforcement ← enforcementOf id m
  let hub ← hubOf id m
  let declared ← declaredChecks id m
  let checkName ← namedCheck id m
  let checks := declared ++ (checkName.map Check.named).toList
  if checks.isEmpty then .error (.noChecks id)
  else
    let name ← filledText m "name" id
    let description ← filledText m "description" ""
    let target ← targetOf id level m
    return { id, name, description, level, target, category, enforcement, hub, checks, checkName }

end DocTrace.Rule
