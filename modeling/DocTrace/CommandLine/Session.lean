import DocTrace.CommandLine.Command
import DocTrace.Lint
import DocTrace.Rule.Listing

/-!
What a run of the program prints, how it ends, and the disk that it leaves. The
notices come first. An error in the project's own files is told in a line; any
other fault breaks the program off.
-/

namespace DocTrace.CommandLine

structure Environment where
  disk : Disk
  cpus : Option Int := none
  /-- The milliseconds since 1970. -/
  now : Int
  /-- The milliseconds that a pass is said to take. -/
  elapsed : Binary64 := .zero false

inductive Fault where
  | lint (fault : Lint.Fault)
  /-- The table of rules cannot be shown. -/
  | listing (fault : Text.Markup.Fault)

def Fault.message? : Fault → Option String
  | .lint fault => fault.message?
  | .listing _ => none

structure Performed where
  text : String
  failed : Bool := false
  disk : Disk

namespace Command

def configure (env : Environment) (root : Path) : Told Fault Config :=
  (Config.load env.disk root env.cpus).mapError fun fault => .lint (.config fault)

/-- A text with its line end; nothing is printed for an empty one. -/
def line (text : String) : String := if text = "" then "" else text ++ "\n"

def lintOptions (options : CheckOptions) : Lint.Options :=
  { useCache := !options.noCache, workers := options.workers }

def lint (env : Environment) (root : Path) (options : CheckOptions) : Told Fault Performed := do
  let outcome ← (Lint.ofProject env.disk root env.cpus env.now
    (lintOptions options)).mapError Fault.lint
  let report := { outcome.report with elapsed := env.elapsed }
  return {
    text := line (report.write options.format)
    failed := report.failed || (options.failOnWarning && !report.warnings.isEmpty)
    disk := outcome.disk }

def listRules (env : Environment) (root : Path) (asJson : Bool) : Told Fault Performed := do
  let config ← configure env root
  let rules ← (Rule.load env.disk (some config.rulesPath) true).mapError fun fault =>
    Fault.lint (.rules fault)
  if asJson then return { text := line (Rule.jsonListing rules), disk := env.disk }
  match Rule.tableListing rules with
  | .ok text => return { text, disk := env.disk }
  | .error fault => .fail (.listing fault)

def openCache (env : Environment) (config : Config) : Told Fault AnalysisCache :=
  (Lint.openCache env.disk (some config.cacheFile)).mapError Fault.lint

def cacheSummary (config : Config) (cache : AnalysisCache) : String :=
  s!"Path:    {config.cacheFile.toText}\n" ++
    "Enabled: " ++ (if config.cacheEnabled then "yes" else "no") ++ "\n" ++
    s!"Entries: {cache.size}\n"

def showCache (env : Environment) (root : Path) : Told Fault Performed := do
  let config ← configure env root
  let cache ← openCache env config
  return { text := cacheSummary config cache, disk := env.disk }

def clearCache (env : Environment) (root : Path) : Told Fault Performed := do
  let config ← configure env root
  let cache ← openCache env config
  let saved := cache.clear.save env.disk env.now
  Told.tell saved.notices
  match saved.result with
  | .ok _ => return { text := s!"Cleared {cache.size} cache entries.\n", disk := saved.disk }
  | .error fault => .fail (.lint (.cache fault))

/-- The disk that a command leaves behind when it fails. -/
def diskLeft (env : Environment) (root : Path) : Command → Disk
  | .check options => Lint.diskLeft env.disk root env.cpus env.now (lintOptions options)
  | _ => env.disk

def perform (env : Environment) (root : Path) : Command → Told Fault Performed
  | .check options => lint env root options
  | .rules asJson => listRules env root asJson
  | .cacheStats => showCache env root
  | .cacheClear => clearCache env root

end Command

inductive Ending where
  | exited (code : Nat)
  /-- The usage of the program or of a command was told. -/
  | explained
  | misused (misuse : Misuse)
  | brokenOff (fault : Fault)

structure Session where
  ending : Ending
  /-- Notices and errors, which are printed first and apart from the output. -/
  diagnostics : String := ""
  output : String := ""
  disk : Disk

namespace Session

def printed (s : Session) : String := s.diagnostics ++ s.output

def version : String := "specloom, version 0.4.0\n"

def usage : String :=
  "Usage: specloom [--verbose] [--version] [--help] COMMAND\n\n" ++
    "  check [--format rich|json|porcelain] [--no-cache] [--workers N] [--fail-on-warn]\n" ++
    "  rules [--json]\n" ++
    "  cache stats\n" ++
    "  cache clear\n\n" ++
    "Every command takes --project DIRECTORY and --help.\n"

def noticeText (verbose : Bool) (notices : List Notice) : String :=
  let shown := Notice.atLeast (if verbose then .debug else .warning) notices
  String.join (shown.map fun n => n.toLine ++ "\n")

/-- The root of the project: the directory that is named, or else the one that
the program runs in. -/
def projectRoot (disk : Disk) : Option String → Except Misuse Path
  | none => .ok ⟨"/", disk.workingDirectory⟩
  | some text =>
    if text ≠ "" && disk.isDirectory (.ofText text) then .ok (.ofText text)
    else .error (.noDirectory text)

/-- How a command ends. The program exits with 1 for a failed check and with 2
for an error that it tells about. -/
def ofCommand (env : Environment) (verbose : Bool) (root : Path) (command : Command) : Session :=
  let told := command.perform env root
  let before := noticeText verbose told.notices
  match told.result with
  | .ok performed =>
    { ending := .exited (if performed.failed then 1 else 0), diagnostics := before
      output := performed.text, disk := performed.disk }
  | .error fault =>
    let disk := command.diskLeft env root
    match fault.message? with
    | some message =>
      { ending := .exited 2, diagnostics := before ++ s!"Error: {message}\n", disk }
    | none => { ending := .brokenOff fault, diagnostics := before, disk }

def run (env : Environment) (arguments : List String) : Session :=
  match Request.parse arguments with
  | .error misuse => { ending := .misused misuse, disk := env.disk }
  | .ok .help => { ending := .explained, output := usage, disk := env.disk }
  | .ok .version => { ending := .exited 0, output := version, disk := env.disk }
  | .ok (.command verbose project command) =>
    match projectRoot env.disk project with
    | .error misuse => { ending := .misused misuse, disk := env.disk }
    | .ok root => ofCommand env verbose root command

end Session

end DocTrace.CommandLine
