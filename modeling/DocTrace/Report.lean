import DocTrace.Evaluation
import DocTrace.Json.Printer
import DocTrace.Text.Line

/-!
What a lint pass found, and the three forms in which it is written: for people,
as a JSON document, and with one line for each violation.
-/

namespace DocTrace

structure Report where
  violations : List Violation := []
  rulesEvaluated : Nat := 0
  assetsScanned : Nat := 0
  cacheHits : Nat := 0
  cacheMisses : Nat := 0
  /-- The milliseconds that the pass took. -/
  elapsed : Binary64 := .zero false

inductive Report.Format where
  | rich
  | json
  | porcelain
deriving DecidableEq

namespace Violation

def isError (v : Violation) : Bool := v.severity = "error"

def isWarning (v : Violation) : Bool := v.severity = "warning"

/-- The file, or else the identifier, or else the project. -/
def place (v : Violation) : String :=
  match v.file with
  | some file => file
  | none => (v.id.filter (· ≠ "")).getD "project"

/-- The words of the message with one blank between two of them. -/
def foldedMessage (v : Violation) : String :=
  Text.joinWith " " ((Text.words v.message.toList).map .ofList)

def toPorcelain (v : Violation) : String :=
  Text.joinWith ":" [v.severity, v.ruleId, v.ruleType, v.file.getD "", v.id.getD "",
    v.foldedMessage]

def toJson (v : Violation) : Json :=
  .object [("rule_id", .str v.ruleId), ("rule_name", .str v.ruleName),
    ("rule_type", .str v.ruleType), ("severity", .str v.severity), ("file_path", .ofOption v.file),
    ("ref_id", .ofOption v.id), ("message", .str v.message)]

/-- A line that names the rule and the place, and the indented lines of the message. -/
def toRich (mark : String) (v : Violation) : List String :=
  s!"{mark} {v.ruleId}  {v.place}" ::
    (Text.lines v.message.toList).map fun line => "  " ++ .ofList line

end Violation

namespace Report

def errors (r : Report) : List Violation := r.violations.filter (·.isError)

def warnings (r : Report) : List Violation := r.violations.filter (·.isWarning)

def failed (r : Report) : Bool := r.violations.any (·.isError)

/-! ### For people -/

def counted (n : Nat) (noun : String) : String :=
  if n = 1 then s!"{n} {noun}" else s!"{n} {noun}s"

/-- The violations of one severity, if there are any, and an empty line. -/
def group (title mark : String) (violations : List Violation) : List String :=
  if violations.isEmpty then []
  else
    s!"{title} ({violations.length})" :: violations.flatMap (Violation.toRich mark) ++ [""]

def seconds (r : Report) : String := (r.elapsed.divNat 1000).toTenths

def summaryLine (r : Report) : String :=
  s!"({r.rulesEvaluated} rules evaluated, {r.seconds}s)"

def richLines (r : Report) : List String :=
  [s!"Rules: {r.rulesEvaluated} loaded",
    s!"Assets: {r.assetsScanned} scanned (cache: {r.cacheHits} hits, {r.cacheMisses} misses)",
    ""] ++
    if r.violations.isEmpty then [s!"✓ No violations found {r.summaryLine}"]
    else
      group "Errors" "✗" r.errors ++ group "Warnings" "!" r.warnings ++
        [counted r.errors.length "error" ++ ", " ++ counted r.warnings.length "warning" ++ " " ++
          r.summaryLine]

def toRich (r : Report) : String := Text.joinWith "\n" r.richLines

/-! ### For programs -/

def toJson (r : Report) : Json :=
  .object [("violations", .array (r.violations.map Violation.toJson)),
    ("summary", .object [("rules_evaluated", .int r.rulesEvaluated),
      ("assets_scanned", .int r.assetsScanned), ("errors", .int r.errors.length),
      ("warnings", .int r.warnings.length), ("cache_hits", .int r.cacheHits),
      ("cache_misses", .int r.cacheMisses), ("elapsed_ms", .float r.elapsed)])]

/-- The lines of all violations; nothing if there are none. -/
def toPorcelain (r : Report) : String :=
  Text.joinWith "\n" (r.violations.map Violation.toPorcelain)

def write (r : Report) : Format → String
  | .rich => r.toRich
  | .json => r.toJson.indented .ascii
  | .porcelain => r.toPorcelain

end Report

end DocTrace
