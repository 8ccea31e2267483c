import DocTrace.Rule.Schema
import DocTrace.Yaml.Document

/-!
Documents that list rules, and the merge of two such lists. A mapping with an
identifier that is already there overrides the fields of that rule in its place.
-/

namespace DocTrace.Rule

inductive DocumentFault where
  | malformed (source : String)
  | scalar (fault : Yaml.Fault)
  | notMapping (source : String)
  | badVersion (source version : String)
  /-- The version is a collection. -/
  | versionNotScalar
  | rulesNotList (source : String)
  | ruleNotMapping (source : String) (index : Nat)
  | ruleWithoutId (source : String) (index : Nat)
  | duplicateId (source rule : String)
deriving DecidableEq

def documentVersion : Int := 1

def DocumentFault.message : DocumentFault → String
  | .malformed source => s!"{source}: invalid YAML: <yaml error>"
  | .scalar fault => fault.message
  | .notMapping source => s!"{source} must be a YAML mapping"
  | .badVersion source version =>
    s!"{source}: unsupported version {version}, expected one of [{documentVersion}]"
  | .versionNotScalar => "unhashable type"
  | .rulesNotList source => s!"{source}: 'rules' must be a list"
  | .ruleNotMapping source index => s!"{source}: rule at index {index} must be a mapping"
  | .ruleWithoutId source index => s!"{source}: rule at index {index} missing required 'id' field"
  | .duplicateId source rule => s!"{source}: duplicate rule id '{rule}'"

/-- Sets can be looked up among the versions although they cannot be keys. -/
def canBeVersion (v : Value) : Bool :=
  match v with
  | .set _ => true
  | v => v.isHashable

def checkVersion (source : String) (m : Mapping) : Except DocumentFault Unit :=
  match present? m "version" with
  | none => .ok ()
  | some v =>
    if !canBeVersion v then .error .versionNotScalar
    else if v.eqValue (.int documentVersion) then .ok ()
    else if v.isShowable then .error (.badVersion source v.toText)
    else .error (.scalar .notShown)

/-- The mappings of a list of rules from an index on; `seen` are the identifiers before. -/
def mappingsFrom (source : String) (seen : List String) (index : Nat) :
    List Value → Except DocumentFault (List Mapping)
  | [] => .ok []
  | v :: rest =>
    match v.asMap? with
    | none => .error (.ruleNotMapping source index)
    | some m =>
      match idOf m with
      | .error _ => .error (.ruleWithoutId source index)
      | .ok id =>
        if seen.contains id then .error (.duplicateId source id)
        else (mappingsFrom source (id :: seen) (index + 1) rest).map (m :: ·)

def mappingsOf (source : String) (m : Mapping) : Except DocumentFault (List Mapping) := do
  checkVersion source m
  match m.find? "rules" with
  | none => return []
  | some .null => return []
  | some v =>
    match v.asList? with
    | some items => mappingsFrom source [] 0 items
    | none => .error (.rulesNotList source)

/-- The rule mappings of a document; `source` is what messages call it. -/
def readDocument (text source : String) : Except DocumentFault (List Mapping) :=
  match Yaml.load text with
  | .error .malformed => .error (.malformed source)
  | .error fault => .error (.scalar fault)
  | .ok .null => .ok []
  | .ok v =>
    match v.asMap? with
    | some m => mappingsOf source m
    | none => .error (.notMapping source)

/-- The key under which a rule mapping is merged, if it has an identifier at all. -/
def mergeKey? (m : Mapping) : Option String := (m.find? "id").map Value.toText

def addOverride (merged : Table String Mapping) (key : String) (m : Mapping) :
    Table String Mapping :=
  merged.put key (match merged.find? key with
    | some base => base.merge m
    | none => m)

def isEnabled (m : Mapping) : Bool := !((m.find? "enabled").map Value.isFalse).getD false

/-- The rules of `base` with those of `overrides` merged in, without the disabled
ones. A mapping without an identifier makes the merge fail. -/
def merge? (base overrides : List Mapping) : Option (List Mapping) := do
  let base ← base.mapM fun m => (mergeKey? m).map (·, m)
  let overrides ← overrides.mapM fun m => (mergeKey? m).map (·, m)
  let merged := overrides.foldl (fun t e => addOverride t e.1 e.2) (Table.ofList base)
  return (merged.entries.map (·.2)).filter isEnabled

end DocTrace.Rule
