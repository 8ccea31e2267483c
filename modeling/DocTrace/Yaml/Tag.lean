import DocTrace.Yaml.Fault

/-!
Tags of YAML nodes, and the tag that a plain scalar has by its form.
-/

namespace DocTrace.Yaml

inductive Tag where
  | null
  | bool
  | int
  | float
  | timestamp
  | binary
  | str
  | seq
  | map
  | set
  | omap
  | pairs
  | merge
  | value
  | other (name : List Char)
deriving DecidableEq

namespace Tag

def named : List (String × Tag) :=
  [("null", .null), ("bool", .bool), ("int", .int), ("float", .float), ("timestamp", .timestamp),
    ("binary", .binary), ("str", .str), ("seq", .seq), ("map", .map), ("set", .set),
    ("omap", .omap), ("pairs", .pairs), ("merge", .merge), ("value", .value)]

/-- What every tag of the standard vocabulary begins with. -/
def vocabulary : String := "tag:yaml.org,2002:"

def ofName (name : List Char) : Tag :=
  ((named.find? fun e => (vocabulary ++ e.1).toList = name).map (·.2)).getD (.other name)

/-! ### Forms of plain scalars -/

def truthWords : List String :=
  ["yes", "Yes", "YES", "no", "No", "NO", "true", "True", "TRUE", "false", "False", "FALSE", "on",
    "On", "ON", "off", "Off", "OFF"]

def nullWords : List String := ["", "~", "null", "Null", "NULL"]

def dropSign : List Char → List Char
  | '+' :: s => s
  | '-' :: s => s
  | s => s

/-- Digits of a class and underscores, at least one of them. -/
def isDigitRow (digit : Char → Bool) (s : List Char) : Bool :=
  !s.isEmpty && s.all fun c => digit c || c = '_'

def isBinaryDigit (c : Char) : Bool := c = '0' || c = '1'

def isOctalDigit (c : Char) : Bool := '0' ≤ c && c ≤ '7'

def isHexDigit (c : Char) : Bool := c.isDigit || ('a' ≤ c && c ≤ 'f') || ('A' ≤ c && c ≤ 'F')

/-- One or two digits below sixty. -/
def isSixtieth : List Char → Bool
  | [a] => a.isDigit
  | [a, b] => '0' ≤ a && a ≤ '5' && b.isDigit
  | _ => false

/-- The pieces of a text between colons; `piece` is the reversed beginning of the one being read. -/
def colonPieces (piece : List Char) : List Char → List (List Char)
  | [] => [piece.reverse]
  | c :: s => if c = ':' then piece.reverse :: colonPieces [] s else colonPieces (c :: piece) s

/-- Digits in base sixty with colons between them; the class is for the first digit of the first. -/
def isSixtyRow (first : Char → Bool) (s : List Char) : Bool :=
  match colonPieces [] s with
  | (c :: cs) :: more :: rest =>
    first c && cs.all (fun c => c.isDigit || c = '_') && (more :: rest).all isSixtieth
  | _ => false

def isNonZeroDigit (c : Char) : Bool := '1' ≤ c && c ≤ '9'

def isInteger (s : List Char) : Bool :=
  let digits := dropSign s
  (match digits with
  | ['0'] => true
  | '0' :: 'b' :: rest => isDigitRow isBinaryDigit rest
  | '0' :: 'x' :: rest => isDigitRow isHexDigit rest
  | '0' :: rest => isDigitRow isOctalDigit rest
  | c :: rest => isNonZeroDigit c && rest.all fun c => c.isDigit || c = '_'
  | [] => false) || isSixtyRow isNonZeroDigit digits

/-- Nothing, or `e`, a sign and digits. -/
def isExponent : List Char → Bool
  | [] => true
  | e :: sign :: digits =>
    (e = 'e' || e = 'E') && (sign = '+' || sign = '-') && !digits.isEmpty &&
      digits.all Char.isDigit
  | _ => false

/-- Digits and underscores, and then an exponent or nothing. -/
def isFraction (s : List Char) : Bool := isExponent (s.dropWhile fun c => c.isDigit || c = '_')

def isFloat (s : List Char) : Bool :=
  let digits := dropSign s
  let cut := digits.span (· ≠ '.')
  match cut.2 with
  | '.' :: fraction =>
    let word := String.ofList fraction
    match cut.1 with
    | [] =>
      (digits.length = s.length &&
        ((fraction.head?.map Char.isDigit).getD false && isFraction fraction ||
          ["nan", "NaN", "NAN"].contains word)) ||
        ["inf", "Inf", "INF"].contains word
    | c :: cs =>
      (c.isDigit && cs.all (fun c => c.isDigit || c = '_') && isFraction fraction) ||
        (isSixtyRow Char.isDigit cut.1 && fraction.all fun c => c.isDigit || c = '_')
  | _ => false

/-- Between `least` and `most` digits at the beginning, as many as there are, and the rest. -/
def takeDigits? (least most : Nat) (s : List Char) : Option (List Char × List Char) :=
  let digits := (s.take most).takeWhile Char.isDigit
  if least ≤ digits.length then some (digits, s.drop digits.length) else none

def expect? (c : Char) : List Char → Option (List Char)
  | x :: s => if x = c then some s else none
  | [] => none

structure TimestampParts where
  year : List Char
  month : List Char
  day : List Char
  time : Option (List Char × List Char × List Char) := none
  fraction : List Char := []
  /-- Whether the offset is universal time, or its sign, hours and minutes. -/
  zone : Option (Option (Bool × List Char × List Char)) := none

def isTimestampBlank (c : Char) : Bool := c = ' ' || c = '\t'

def timeSeparator? (s : List Char) : Option (List Char) :=
  match s with
  | c :: rest =>
    if c = 'T' || c = 't' then some rest
    else if isTimestampBlank c then some (rest.dropWhile isTimestampBlank)
    else none
  | [] => none

/-- An offset up to the end, or nothing; blanks may stand before an offset. -/
def zone? (s : List Char) : Option (Option (Option (Bool × List Char × List Char))) :=
  if s.isEmpty then some none
  else
    match s.dropWhile isTimestampBlank with
    | ['Z'] => some (some none)
    | c :: rest =>
      if c = '+' || c = '-' then do
        let (hours, rest) ← takeDigits? 1 2 rest
        match rest with
        | [] => return some (some (c = '-', hours, []))
        | _ =>
          let (minutes, rest) ← (expect? ':' rest).bind (takeDigits? 2 2)
          if rest.isEmpty then return some (some (c = '-', hours, minutes)) else none
      else none
    | [] => none

/-- A date, alone or with a time, whose month and day have one or two digits. -/
def timestampParts? (s : List Char) : Option TimestampParts := do
  let (year, rest) ← takeDigits? 4 4 s
  let (month, rest) ← (expect? '-' rest).bind (takeDigits? 1 2)
  let (day, rest) ← (expect? '-' rest).bind (takeDigits? 1 2)
  if rest.isEmpty then return { year, month, day }
  let (hour, rest) ← (timeSeparator? rest).bind (takeDigits? 1 2)
  let (minute, rest) ← (expect? ':' rest).bind (takeDigits? 2 2)
  let (second, rest) ← (expect? ':' rest).bind (takeDigits? 2 2)
  let (fraction, rest) :=
    match rest with
    | '.' :: rest => rest.span Char.isDigit
    | rest => ([], rest)
  let zone ← zone? rest
  return { year, month, day, time := some (hour, minute, second), fraction, zone }

/-- Without a time, the month and the day of a plain timestamp have two digits. -/
def isTimestamp (s : List Char) : Bool :=
  match timestampParts? s with
  | some parts => parts.time.isSome || (parts.month.length = 2 && parts.day.length = 2)
  | none => false

/-- A final line feed does not count for the form. -/
def dropFinalNewline (s : List Char) : List Char :=
  if s.getLast? = some '\n' then s.dropLast else s

def ofPlain (text : List Char) : Tag :=
  let s := dropFinalNewline text
  let word := String.ofList s
  if truthWords.contains word then .bool
  else if isFloat s then .float
  else if isInteger s then .int
  else if word = "<<" then .merge
  else if nullWords.contains word && (text.isEmpty || !s.isEmpty) then .null
  else if isTimestamp s then .timestamp
  else if word = "=" then .value
  else if ["!", "&", "*"].contains word then .other (vocabulary ++ "yaml").toList
  else .str

end Tag

end DocTrace.Yaml
