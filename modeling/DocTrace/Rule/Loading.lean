import DocTrace.Disk
import DocTrace.Notice
import DocTrace.Rule.Builtin
import DocTrace.Rule.Document

/-!
The rules of a project: the built-in ones, changed and extended by the project's
own document. What they say about folders follows from their targets.
-/

namespace DocTrace

structure HubFolder where
  id : String
  title : String
  folder : String
  idPrefix : Option String := none
  rule : Option String := none
deriving DecidableEq

namespace Rule

inductive LoadFault where
  | document (fault : DocumentFault)
  | undecodable (fault : Text.Utf8.Fault)
  | pathTooLong (path : Path)
  | rule (fault : Fault)
  | mergeWithoutId
deriving DecidableEq

def LoadFault.message : LoadFault → String
  | .document fault => fault.message
  | .undecodable fault => fault.message
  | .pathTooLong path => "[Errno 36] File name too long: " ++ Text.Quoted.quoteString path.toText
  | .rule fault => fault.message
  | .mergeWithoutId => "'id'"

/-- Whether a fault is reported as one of the rule document. The others break the program off. -/
def LoadFault.isReported : LoadFault → Bool
  | .document .versionNotScalar => false
  | .document (.scalar .emptyNumber) => false
  | .document (.scalar (.truthValue _)) => false
  | .document (.scalar .timestamp) => false
  | .document (.scalar .codePointTooLong) => false
  | .document (.scalar .timestampMapping) => false
  | .document (.scalar .tooDeep) => false
  | .rule .checkNotName => false
  | .mergeWithoutId => false
  | _ => true

def overridesAt (disk : Disk) (path : Path) : Except LoadFault (List Mapping) :=
  if disk.isTooLong path then .error (.pathTooLong path)
  else
    match disk.file? path with
    | none => .ok []
    | some content => do
      let text ← (Disk.textOf content).mapError LoadFault.undecodable
      (readDocument text path.name).mapError LoadFault.document

/-- The rules that some base mappings and overrides give. -/
def ofMappings (base overrides : List Mapping) : Except LoadFault (List Rule) :=
  match merge? base overrides with
  | none => .error .mergeWithoutId
  | some merged => merged.mapM fun m => (ofMapping m).mapError LoadFault.rule

/-- Loads the rules with the document at a path, if there is one. -/
def load (disk : Disk) (path : Option Path) (withBuiltin : Bool) : Told LoadFault (List Rule) :=
  let base := if withBuiltin then Builtin.rules else []
  match path.elim (.ok []) (overridesAt disk) with
  | .error fault => .fail fault
  | .ok overrides =>
    match ofMappings base overrides with
    | .error fault => .fail fault
    | .ok rules => ⟨.ok rules, [.rulesLoaded rules.length overrides.length]⟩

def hubFolder? (r : Rule) : Option HubFolder :=
  match r.hub, r.target.folder? with
  | some hub, some folder => some ⟨hub.id, hub.title, folder, r.target.idPrefix, some r.id⟩
  | _, _ => none

def hubFolders (rules : List Rule) : List HubFolder := rules.filterMap hubFolder?

def claim? (r : Rule) : Option String := if r.level = .folder then r.target.folder? else none

/-- The claimed folders with the rules that claim them. -/
def folderClaims (rules : List Rule) : Table String (List String) :=
  rules.foldl (fun t r =>
    match r.claim? with
    | some folder => t.put folder ((t.find? folder).getD [] ++ [r.id])
    | none => t) {}

/-- The beginning of the identifiers in a claimed folder, as its first claim says. -/
def folderPrefixes (rules : List Rule) : Table String String :=
  rules.foldl (fun t r =>
    match r.claim?, r.target.idPrefix.filter (· ≠ "") with
    | some folder, some start => t.putNew folder start
    | _, _ => t) {}

end Rule

end DocTrace
