import DocTrace.CommandLine.Arguments
import DocTrace.Number.Reading
import DocTrace.Report
import DocTrace.Text.Word

/-!
The commands of the program. Options that hold for all commands stand before the
name of the command, its own options after it.
-/

namespace DocTrace.CommandLine

structure CheckOptions where
  format : Report.Format := .porcelain
  noCache : Bool := false
  workers : Option Int := none
  failOnWarning : Bool := false
deriving DecidableEq

inductive Command where
  /-- Lints the project. -/
  | check (options : CheckOptions)
  /-- Lists the rules. -/
  | rules (asJson : Bool)
  | cacheStats
  | cacheClear
deriving DecidableEq

/-- What the arguments after the options of the program ask for. -/
inductive Invocation where
  | help
  | run (project : Option String) (command : Command)
deriving DecidableEq

inductive Request where
  | version
  | help
  | command (verbose : Bool) (project : Option String) (command : Command)
deriving DecidableEq

namespace Command

def format? (name : String) : Option Report.Format :=
  [("rich", .rich), ("json", .json), ("porcelain", .porcelain)].lookup name

def formatOf (a : Arguments) : Except Misuse Report.Format :=
  match a.value? "--format" with
  | none => .ok .porcelain
  | some name =>
    match format? name with
    | some format => .ok format
    | none => .error (.badValue "--format" name)

def workersOf (a : Arguments) : Except Misuse (Option Int) :=
  match a.value? "--workers" with
  | none => .ok none
  | some text =>
    match Number.readInt 10 text.toList with
    | .ok n => if n < 1 then .error (.badValue "--workers" text) else .ok (some n)
    | .error _ => .error (.badValue "--workers" text)

def withoutOperands (a : Arguments) : Except Misuse Unit :=
  match a.operands with
  | [] => .ok ()
  | argument :: _ => .error (.extraArgument argument)

/-- Reads the options of a command. Help is given before their values are looked at. -/
def parseOptions (o : Options) (arguments : List String)
    (command : Arguments → Except Misuse Command) : Except Misuse Invocation := do
  let a ← { o with flags := "--help" :: o.flags, valued := "--project" :: o.valued }.parse arguments
  if a.has "--help" then return .help
  let command ← command a
  withoutOperands a
  return .run (a.value? "--project") command

def checkOf (a : Arguments) : Except Misuse Command := do
  let format ← formatOf a
  let workers ← workersOf a
  return .check
    { format, workers, noCache := a.has "--no-cache", failOnWarning := a.has "--fail-on-warn" }

def parseCheck (arguments : List String) : Except Misuse Invocation :=
  parseOptions { flags := ["--no-cache", "--fail-on-warn"], valued := ["--format", "--workers"] }
    arguments checkOf

def parseRules (arguments : List String) : Except Misuse Invocation :=
  parseOptions { flags := ["--json"] } arguments fun a => .ok (.rules (a.has "--json"))

/-- A word that names no command asks for help if it does not begin with a letter or a digit. -/
def unknown (name : String) : Except Misuse Invocation :=
  match name.toList.head? with
  | some c =>
    if Text.isWord c && c ≠ '_' then .error (.unknownCommand name) else .ok .help
  | none => .error (.unknownCommand name)

/-- The commands on the cache have a name of two words; without the second one there is help. -/
def parseCache (arguments : List String) : Except Misuse Invocation := do
  if arguments.isEmpty then return .help
  let a ← { flags := ["--help"], anywhere := false : Options }.parse arguments
  if a.has "--help" then return .help
  match a.operands with
  | [] => .error .missingCommand
  | "stats" :: rest => parseOptions {} rest fun _ => .ok .cacheStats
  | "clear" :: rest => parseOptions {} rest fun _ => .ok .cacheClear
  | name :: _ => unknown name

def parse : List String → Except Misuse Invocation
  | [] => .error .missingCommand
  | "check" :: rest => parseCheck rest
  | "rules" :: rest => parseRules rest
  | "cache" :: rest => parseCache rest
  | name :: _ => unknown name

end Command

namespace Request

def options : Options :=
  { flags := ["--verbose", "--version", "--help"], letters := [('v', "--verbose")],
    anywhere := false }

/-- The version and help are told whatever follows the options; of both the first one counts. -/
def parse (arguments : List String) : Except Misuse Request := do
  if arguments.isEmpty then return .help
  let a ← options.parse arguments
  match a.flags.find? (· ≠ "--verbose") with
  | some flag => return if flag = "--version" then .version else .help
  | none =>
    match ← Command.parse a.operands with
    | .help => return .help
    | .run project chosen => return .command (a.has "--verbose") project chosen

end Request

end DocTrace.CommandLine
