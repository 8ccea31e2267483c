import DocTrace.AnalysisCache.Age
import DocTrace.Disk
import DocTrace.Ignore
import DocTrace.Notice
import DocTrace.Yaml.Document

/-!
The configuration of a project. Every setting may be left out; a file that is no
YAML mapping counts as empty, and a value of the wrong kind is an error.
-/

namespace DocTrace

structure Config where
  projectRoot : Path
  docsDir : String
  rules : String
  cacheEnabled : Bool
  cachePath : String
  maxAge : AgeLimit
  workers : Int
  ignore : List String
  exemptIds : List String
  systemFolders : List String

namespace Config

def defaultDocsDir : String := "docs"

def defaultRules : String := ".specloom/rules.yml"

def defaultCachePath : String := ".specloom/cache/parse-cache.json"

def defaultMaxAge : AgeLimit := .whole 30

def defaultSystemFolders : List String := ["others", "footnotes"]

def configFile : Path := ⟨"", [".specloom", "config.yml"]⟩

def ignoreFile : Path := ⟨"", [".specloomignore"]⟩

def docsPath (c : Config) : Path := c.projectRoot.join (.ofText c.docsDir)

def rulesPath (c : Config) : Path := c.projectRoot.join (.ofText c.rules)

def cacheFile (c : Config) : Path := c.projectRoot.join (.ofText c.cachePath)

inductive Problem where
  | notTexts (key : String)
  | emptyText (key : String)
  | cacheNotMapping
  | enabledNotBool
  | badAge
  | badWorkers
deriving DecidableEq

def Problem.message : Problem → String
  | .notTexts key => s!"config.yml: '{key}' must be a list of strings"
  | .emptyText key => s!"config.yml: '{key}' must be a non-empty string"
  | .cacheNotMapping => "config.yml: 'cache' must be a mapping"
  | .enabledNotBool => "config.yml: 'cache.enabled' must be true or false"
  | .badAge => "config.yml: 'cache.max_age_days' must be a non-negative number"
  | .badWorkers => "config.yml: 'workers' must be a positive integer"

inductive Fault where
  | setting (problem : Problem)
  | scalar (fault : Yaml.Fault)
  | ignoreFile (fault : Text.Utf8.Fault)
deriving DecidableEq

def texts? (m : Mapping) (key : String) : Except Problem (Option (List String)) :=
  match m.find? key with
  | none => .ok none
  | some .null => .ok none
  | some v =>
    match v.asList?.bind (·.mapM Value.asString?) with
    | some ss => .ok (some ss)
    | none => .error (.notTexts key)

/-- A text that is not blank. -/
def text (m : Mapping) (key default : String) : Except Problem String :=
  match m.find? key with
  | none => .ok default
  | some (.str s) => if (Text.trim s.toList).isEmpty then .error (.emptyText key) else .ok s
  | some _ => .error (.emptyText key)

def cacheSettings (m : Mapping) : Except Problem Mapping :=
  match m.find? "cache" with
  | none => .ok []
  | some v =>
    if !v.truthy then .ok []
    else
      match v.asMap? with
      | some cache => .ok cache
      | none => .error .cacheNotMapping

def enabled (cache : Mapping) : Except Problem Bool :=
  match cache.find? "enabled" with
  | none => .ok true
  | some (.bool b) => .ok b
  | some _ => .error .enabledNotBool

def maxAgeOf (cache : Mapping) : Except Problem AgeLimit :=
  match cache.find? "max_age_days" with
  | none => .ok defaultMaxAge
  | some (.int days) => if days < 0 then .error .badAge else .ok (.whole days)
  | some (.float days) => if days.isBelowZero then .error .badAge else .ok (.fractional days)
  | some _ => .error .badAge

/-- One worker for each processor, up to eight; an unknown count or zero is one. -/
def defaultWorkers (cpus : Option Int) : Int :=
  min 8 ((cpus.filter (· ≠ 0)).getD 1)

def workersOf (m : Mapping) (cpus : Option Int) : Except Problem Int :=
  match m.find? "workers" with
  | none => .ok (defaultWorkers cpus)
  | some .null => .ok (defaultWorkers cpus)
  | some (.int n) => if n < 1 then .error .badWorkers else .ok n
  | some _ => .error .badWorkers

/-- The settings of the configuration file; one that cannot be used counts as empty. -/
def settings (disk : Disk) (projectRoot : Path) : Told Fault Mapping :=
  let path := projectRoot.join configFile
  match disk.file? path with
  | none => pure []
  | some content =>
    match Disk.textOf content with
    | .error _ => ⟨.ok [], [.configUnreadable path.toText]⟩
    | .ok text =>
      match Yaml.load text with
      | .error .malformed => ⟨.ok [], [.configUnreadable path.toText]⟩
      | .error fault => .fail (.scalar fault)
      | .ok .null => pure []
      | .ok v =>
        match v.asMap? with
        | some m => pure m
        | none => ⟨.ok [], [.configNotMapping path.toText]⟩

def ignorePatterns (disk : Disk) (projectRoot : Path) : Except Text.Utf8.Fault (List String) :=
  match disk.file? (projectRoot.join ignoreFile) with
  | none => .ok []
  | some content => (Disk.textOf content).map Ignore.patternsOf

def ofSettings (disk : Disk) (projectRoot : Path) (cpus : Option Int) (m : Mapping) :
    Except Fault Config := do
  let cache ← (cacheSettings m).mapError Fault.setting
  let cacheEnabled ← (enabled cache).mapError Fault.setting
  let maxAge ← (maxAgeOf cache).mapError Fault.setting
  let workers ← (workersOf m cpus).mapError Fault.setting
  let listed ← (texts? m "ignore").mapError Fault.setting
  let patterns ← (ignorePatterns disk projectRoot).mapError Fault.ignoreFile
  let systemFolders ← (texts? m "system_folders").mapError Fault.setting
  let docsDir ← (text m "docs_dir" defaultDocsDir).mapError Fault.setting
  let rules ← (text m "rules" defaultRules).mapError Fault.setting
  let cachePath ← (text cache "path" defaultCachePath).mapError Fault.setting
  let exemptIds ← (texts? m "exempt_ids").mapError Fault.setting
  return { projectRoot, docsDir, rules, cacheEnabled, cachePath, maxAge, workers,
           ignore := listed.getD [] ++ patterns, exemptIds := exemptIds.getD [],
           systemFolders := systemFolders.getD defaultSystemFolders }

def load (disk : Disk) (projectRoot : Path) (cpus : Option Int) : Told Fault Config :=
  (settings disk projectRoot).andThen fun m => .quietly (ofSettings disk projectRoot cpus m)

end Config

end DocTrace
