import DocTrace.Value.Calendar

/-!
Why a text is no YAML document. All faults of form are one; a scalar that its
tag does not allow has a cause of its own.
-/

namespace DocTrace.Yaml

inductive Fault where
  | malformed
  | calendar (cause : CalendarFault)
  /-- A text that is no integer in a base. -/
  | integer (base : Nat) (text : List Char)
  /-- An integer with too many digits, of which there are `count`. -/
  | integerTooLong (count : Nat)
  | float (text : List Char)
  | emptyNumber
  | truthValue (text : List Char)
  | timestamp
  | codePoint
  /-- A code point that takes more than 31 bits. -/
  | codePointTooLong
  /-- A mapping in the place of a timestamp. -/
  | timestampMapping
  | tooDeep
  /-- A value that would have to be shown, with an integer that has too many digits for it. -/
  | notShown
deriving DecidableEq

namespace Fault

/-- As much of the quoted text of a number as a message shows. -/
def shownText (text : List Char) : String := .ofList ((Text.Quoted.quote text).take 200)

/-- What is told of an integer that is too long to be shown. -/
def tooManyDigits : String :=
  "Exceeds the limit (4300 digits) for integer string conversion; " ++
    "use sys.set_int_max_str_digits() to increase the limit"

/-- The text of a fault. Faults of form are not told apart. -/
def message : Fault → String
  | .malformed => "<yaml error>"
  | .calendar cause => cause.message
  | .integer base text =>
    s!"invalid literal for int() with base {base}: " ++ shownText text
  | .integerTooLong count =>
    s!"Exceeds the limit (4300 digits) for integer string conversion: value has {count} digits; " ++
      "use sys.set_int_max_str_digits() to increase the limit"
  | .float text =>
    if text.isEmpty then "could not convert string to float: ''"
    else "could not convert string to float: " ++ .ofList (Text.Quoted.quote text)
  | .emptyNumber => "string index out of range"
  | .truthValue text => .ofList (Text.Quoted.quote text)
  | .timestamp => "'NoneType' object has no attribute 'groupdict'"
  | .codePoint => "chr() arg not in range(0x110000)"
  | .codePointTooLong => "code point too long"
  | .timestampMapping => "expected string or bytes-like object, got 'list'"
  | .tooDeep => "maximum recursion depth exceeded"
  | .notShown => tooManyDigits

end Fault

end DocTrace.Yaml
