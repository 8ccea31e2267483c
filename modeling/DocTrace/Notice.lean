import DocTrace.Value.Display

/-!
What the program tells about its own work, besides the violations it finds. A
notice has a level and a source, and its reader decides from which level on
notices are shown. The reason of an input error is not spelled out.
-/

namespace DocTrace

inductive Notice.Level where
  | debug
  | info
  | warning
  | error
deriving DecidableEq

def Notice.Level.name : Notice.Level → String
  | .debug => "DEBUG"
  | .info => "INFO"
  | .warning => "WARNING"
  | .error => "ERROR"

def Notice.Level.rank : Notice.Level → Nat
  | .debug => 0
  | .info => 1
  | .warning => 2
  | .error => 3

inductive Notice where
  | noAnalyzer (diagramType : String)
  | documentUnreadable (path : String)
  | collected (assets directories foreign : Nat) (root : String)
  | configUnreadable (path : String)
  | configNotMapping (path : String)
  | cacheUnreadable (path : String)
  | cacheVersion (found : Value) (expected : String)
  | cacheWithoutEntries (path : String)
  | cacheEntrySkipped (key : String)
  | cachePruned (count : Nat) (days : Value)
  | cacheNotWritten (path : String)
  | noNodeToAnnotate (writer node key : String)
  | annotationKept (writer key : String) (kept : Value) (node owner : String) (ignored : Value)
  | declaredAgain (id file first : String)
  | graphBuilt (nodes identifiers duplicates : Nat)
  | rulesLoaded (rules overrides : Nat)
  | ruleCrashed (rule place : String)
  | lintFinished (violations assets hits misses : Nat)

namespace Notice

def level : Notice → Level
  | .cacheUnreadable _ => .info
  | .cacheVersion .. => .info
  | .cacheWithoutEntries _ => .info
  | .documentUnreadable _ => .warning
  | .configUnreadable _ => .warning
  | .configNotMapping _ => .warning
  | .cacheNotWritten _ => .warning
  | .annotationKept .. => .warning
  | .ruleCrashed .. => .error
  | _ => .debug

def source : Notice → String
  | .noAnalyzer _ => "specloom.analyzers"
  | .documentUnreadable _ => "specloom.assets"
  | .collected .. => "specloom.assets"
  | .configUnreadable _ => "specloom.config"
  | .configNotMapping _ => "specloom.config"
  | .cacheUnreadable _ => "specloom.cache"
  | .cacheVersion .. => "specloom.cache"
  | .cacheWithoutEntries _ => "specloom.cache"
  | .cacheEntrySkipped _ => "specloom.cache"
  | .cachePruned .. => "specloom.cache"
  | .cacheNotWritten _ => "specloom.cache"
  | .noNodeToAnnotate .. => "specloom.graph.builder"
  | .annotationKept .. => "specloom.graph.builder"
  | .declaredAgain .. => "specloom.graph.builder"
  | .graphBuilt .. => "specloom.graph.builder"
  | .rulesLoaded .. => "specloom.graph.rule_engine"
  | .ruleCrashed .. => "specloom.graph.rule_engine"
  | .lintFinished .. => "specloom.graph.linter"

def message : Notice → String
  | .noAnalyzer diagramType =>
    "No analyzer for notation " ++ Text.Quoted.quoteString diagramType ++
      ", returning empty analysis"
  | .documentUnreadable path => s!"Skipping unreadable document {path}: <reason>"
  | .collected assets directories foreign root =>
    s!"Collected {assets} assets, {directories} directories, {foreign} foreign files under {root}"
  | .configUnreadable path => s!"Ignoring unreadable config {path}, using defaults: <reason>"
  | .configNotMapping path => s!"Ignoring config {path}: top level must be a mapping"
  | .cacheUnreadable path => s!"Discarding unreadable parse cache {path}: <reason>"
  | .cacheVersion found expected =>
    s!"Parse cache version {found.toLiteral} does not match " ++ Text.Quoted.quoteString expected ++
      ", rebuilding"
  | .cacheWithoutEntries path => s!"Parse cache {path} has no entries mapping, rebuilding"
  | .cacheEntrySkipped key => s!"Skipping malformed parse cache entry {key}"
  | .cachePruned count days => s!"Pruned {count} parse cache entries older than {days.toText} days"
  | .cacheNotWritten path => s!"Could not write parse cache {path}: <reason>"
  | .noNodeToAnnotate writer node key => s!"{writer}: no node '{node}' to annotate with {key}"
  | .annotationKept writer key kept node owner ignored =>
    s!"{writer}: keeping {key}={kept.toLiteral} on '{node}' (written by {owner}), " ++
      s!"ignoring {ignored.toLiteral}"
  | .declaredAgain id file first => s!"Identifier {id} declared again in {file} (first in {first})"
  | .graphBuilt nodes identifiers duplicates =>
    s!"Built graph: {nodes} nodes, {identifiers} identifiers, {duplicates} duplicates"
  | .rulesLoaded rules overrides => s!"Loaded {rules} rules ({overrides} overrides)"
  | .ruleCrashed rule place => s!"Rule {rule} crashed on {place}"
  | .lintFinished violations assets hits misses =>
    s!"Lint finished: {violations} violations, {assets} assets, " ++
      s!"cache {hits} hits / {misses} misses"

def toLine (n : Notice) : String := s!"{n.level.name} {n.source}: {n.message}"

def atLeast (level : Level) (notices : List Notice) : List Notice :=
  notices.filter fun n => level.rank ≤ n.level.rank

end Notice

/-- A result, or why there is none, with the notices given on the way. -/
structure Told (ε α : Type) where
  result : Except ε α
  notices : List Notice := []

namespace Told

/-- Goes on with the second step only if the first one has a result. -/
def andThen (first : Told ε α) (next : α → Told ε β) : Told ε β :=
  match first.result with
  | .error e => ⟨.error e, first.notices⟩
  | .ok a => ⟨(next a).result, first.notices ++ (next a).notices⟩

instance : Monad (Told ε) where
  pure a := ⟨.ok a, []⟩
  bind := andThen

def tell (notices : List Notice) : Told ε Unit := ⟨.ok (), notices⟩

def fail (e : ε) : Told ε α := ⟨.error e, []⟩

def quietly (result : Except ε α) : Told ε α := ⟨result, []⟩

def mapError (f : ε → δ) (t : Told ε α) : Told δ α := ⟨t.result.mapError f, t.notices⟩

end Told

end DocTrace
