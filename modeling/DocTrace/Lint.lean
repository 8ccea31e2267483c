import DocTrace.AnalysisCache.Pool
import DocTrace.Collection
import DocTrace.Config
import DocTrace.Report
import DocTrace.Rule.Loading

/-!
A lint pass over a project: the rules are loaded, the documents collected and
their diagrams analyzed, and all rules are evaluated on the graph. Diagrams are
analyzed through a cache that is kept on disk, unless the configuration or the
caller turns that off; then the cache lasts for the pass only.
-/

namespace DocTrace.Lint

/-- What the caller of a pass may choose. The result does not depend on the number of workers. -/
structure Options where
  /-- The rule document, in place of the configured one. -/
  rulesPath : Option Path := none
  useCache : Bool := true
  workers : Option Int := none

inductive Fault where
  | config (fault : Config.Fault)
  | rules (fault : Rule.LoadFault)
  | noDocuments (docs : Path)
  /-- The path of the documents is too long. -/
  | pathTooLong
  | header (fault : Yaml.Fault)
  /-- A document has a classification without a text. -/
  | classification
  | cache (fault : AnalysisCache.Fault)
  | age (fault : AgeLimit.Fault)

/-- What the user is told about a fault. One without a message breaks the program off. -/
def Fault.message? : Fault → Option String
  | .config (.setting problem) => some problem.message
  | .rules fault =>
    if fault.isReported then some s!"Invalid rules configuration: {fault.message}" else none
  | .noDocuments docs => some s!"Documentation directory not found: {docs.toText}"
  | _ => none

structure Outcome where
  report : Report
  disk : Disk

/-- Whether the cache is read from disk and written to it. -/
def isPersistent (config : Config) (options : Options) : Bool :=
  options.useCache && config.cacheEnabled

def openCache (disk : Disk) (path : Option Path) : Told Fault AnalysisCache :=
  let loaded := AnalysisCache.openAt disk path
  match loaded.fault with
  | none => ⟨.ok loaded.cache, loaded.notices⟩
  | some fault => ⟨.error (.cache fault), loaded.notices⟩

/-- When the steps of a pass are done. The analyses run side by side along the turns; what is
left of them after that is done in order. -/
structure Course where
  turns : List AnalysisCache.Turn := []
  analyzing : Int
  pruning : Int
  saving : Int

/-- The course of a pass during which the clock stands still. -/
def Course.atOnce (now : Int) : Course := { analyzing := now, pruning := now, saving := now }

def callsFor (diagrams : List Asset) : List AnalysisCache.Call :=
  diagrams.map fun a => { content := a.body, filePath := some a.path }

/-- The analyses of some documents by their paths, the cache after them, and the notices. -/
def analyzeAll (course : Course) (cache : AnalysisCache) (diagrams : List Asset) :
    Table String Analysis × AnalysisCache × List Notice :=
  let pool : AnalysisCache.Pool := { cache, calls := callsFor diagrams }
  let pool := pool.complete course.turns course.analyzing
  (.ofList ((diagrams.map (·.path)).zip (pool.calls.filterMap (·.analysis?))), pool.cache,
    pool.notices)

/-- Drops the old entries of a cache and writes it to disk. The disk afterwards, and whether
the document was written. -/
def storeCache (course : Course) (disk : Disk) (limit : AgeLimit) (cache : AnalysisCache) :
    Told Fault (Disk × Bool) :=
  match cache.prune course.pruning limit with
  | .error fault => .fail (.age fault)
  | .ok (_, cache, pruned) =>
    let saved := cache.save disk course.saving
    ⟨(saved.result.map (saved.disk, ·)).mapError Fault.cache, pruned ++ saved.notices⟩

/-! ### The steps of a pass -/

/-- The rules of a pass. Without the directory of documents there is nothing to lint. -/
def prepare (disk : Disk) (config : Config) (options : Options) : Told Fault (List Rule) := do
  let path := options.rulesPath.getD config.rulesPath
  let rules ← (Rule.load disk (some path) true).mapError Fault.rules
  if disk.isTooLong config.docsPath then .fail .pathTooLong
  else if disk.isDirectory config.docsPath then return rules
  else .fail (.noDocuments config.docsPath)

structure Gathered where
  config : Config
  rules : List Rule
  collected : Collection

def gather (disk : Disk) (projectRoot : Path) (cpus : Option Int) (options : Options) :
    Told Fault Gathered := do
  let config ← (Config.load disk projectRoot cpus).mapError Fault.config
  let rules ← prepare disk config options
  let collected ← (Collection.ofDisk disk config.docsPath config.ignore).mapError Fault.header
  return { config, rules, collected }

def Gathered.diagrams (g : Gathered) : List Asset := g.collected.assets.filter (·.isDiagram)

/-- What a pass knows when the diagrams are analyzed and the cache is stored. -/
structure Examined where
  analyses : Table String Analysis
  cache : AnalysisCache
  disk : Disk
  /-- Whether the document of the cache was written. -/
  stored : Bool

def examine (course : Course) (disk : Disk) (options : Options) (g : Gathered) :
    Told Fault Examined := do
  let persistent := isPersistent g.config options
  let cache ← openCache disk (if persistent then some g.config.cacheFile else none)
  let (analyses, cache, analyzed) := analyzeAll course cache g.diagrams
  Told.tell analyzed
  let (disk, stored) ←
    if persistent then storeCache course disk g.config.maxAge cache else pure (disk, false)
  return { analyses, cache, disk, stored }

def Gathered.sources (g : Gathered) (analyses : Table String Analysis) : Graph.Sources :=
  { assets := g.collected.assets, analyses, hubs := Rule.hubFolders g.rules
    folders := Rule.folderClaims g.rules, folderPrefixes := Rule.folderPrefixes g.rules
    exemptIds := g.config.exemptIds, directories := g.collected.directories
    foreignFiles := g.collected.foreignFiles, systemFolders := g.config.systemFolders }

/-- The violations of the rules in the graph of the documents. -/
def inspect (s : Graph.Sources) (rules : List Rule) : List Violation × List Notice :=
  let (g, built) := Graph.build s
  let (violations, _, evaluated) := Rule.evaluate rules s.assets g
  (violations, built ++ evaluated)

def conclude (g : Gathered) (e : Examined) : Told Fault Outcome := do
  let s := g.sources e.analyses
  if !s.canClassify then Told.fail .classification
  let (violations, inspected) := inspect s g.rules
  let assets := g.collected.assets.length
  Told.tell (inspected ++
    [.lintFinished violations.length assets e.cache.hits e.cache.misses])
  let report : Report :=
    { violations, rulesEvaluated := g.rules.length, assetsScanned := assets
      cacheHits := e.cache.hits, cacheMisses := e.cache.misses }
  return { report, disk := e.disk }

/-! ### Whole passes -/

/-- One pass over the project below a root along a course. -/
def ofProjectAlong (course : Course) (disk : Disk) (projectRoot : Path) (cpus : Option Int)
    (options : Options) : Told Fault Outcome := do
  let g ← gather disk projectRoot cpus options
  let e ← examine course disk options g
  conclude g e

/-- One pass with its analyses one after the other and the clock standing still. -/
def ofProject (disk : Disk) (projectRoot : Path) (cpus : Option Int) (now : Int)
    (options : Options) : Told Fault Outcome :=
  ofProjectAlong (.atOnce now) disk projectRoot cpus options

/-- The disk that a pass leaves behind, also one that breaks off after the cache is stored. -/
def diskLeft (disk : Disk) (projectRoot : Path) (cpus : Option Int) (now : Int)
    (options : Options) : Disk :=
  let examined := (gather disk projectRoot cpus options).andThen
    (examine (.atOnce now) disk options)
  match examined.result with
  | .ok e => e.disk
  | .error _ => disk

end DocTrace.Lint
