import DocTrace.Text.Split

/-!
The arguments of a command: options, of which some take a value, and operands.
A value follows its option as the next argument or after an equals sign. Two
dashes end the options, and of an option given twice the last value counts.
-/

namespace DocTrace.CommandLine

inductive Misuse where
  | unknownOption (argument : String)
  | unwantedValue (option : String)
  | missingValue (option : String)
  | badValue (option value : String)
  | missingCommand
  | unknownCommand (name : String)
  | extraArgument (argument : String)
  | noDirectory (path : String)
deriving DecidableEq

def Misuse.message : Misuse → String
  | .unknownOption argument => s!"There is no option {argument}."
  | .unwantedValue option => "Option '" ++ option ++ "' does not take a value."
  | .missingValue option => "Option '" ++ option ++ "' requires an argument."
  | .badValue option value => s!"Option {option} cannot be {value}."
  | .missingCommand => "A command is missing."
  | .unknownCommand name => s!"There is no command {name}."
  | .extraArgument argument => s!"Argument {argument} was not expected."
  | .noDirectory path => s!"There is no directory {path}."

/-- Whether the misuse lies in the form of an option alone. It is then told without the usage of
the command. -/
def Misuse.isBare : Misuse → Bool
  | .unwantedValue _ => true
  | .missingValue _ => true
  | _ => false

structure Options where
  flags : List String := []
  valued : List String := []
  /-- Letters that stand for flags; several may follow one dash. -/
  letters : List (Char × String) := []
  /-- Whether options may follow operands. -/
  anywhere : Bool := true

/-- The options that are given, in their order, and the operands. -/
structure Arguments where
  flags : List String := []
  values : List (String × String) := []
  operands : List String := []
deriving DecidableEq

namespace Arguments

def has (a : Arguments) (flag : String) : Bool := a.flags.contains flag

def value? (a : Arguments) (option : String) : Option String :=
  (a.values.reverse.find? fun v => v.1 = option).map (·.2)

end Arguments

namespace Options

inductive Item where
  | flags (names : List String)
  | value (option value : String)
  /-- The value is the next argument. -/
  | awaiting (option : String)
deriving DecidableEq

/-- An argument before and after its first equals sign. -/
def cutAtEquals (argument : String) : String × Option String :=
  let s := argument.toList
  let name := String.ofList (s.takeWhile (· ≠ '='))
  match s.dropWhile (· ≠ '=') with
  | _ :: value => (name, some (.ofList value))
  | [] => (name, none)

def readLetters (o : Options) (argument : String) : Except Misuse Item :=
  match (argument.toList.drop 1).mapM fun c => o.letters.lookup c with
  | some names => .ok (.flags names)
  | none => .error (.unknownOption argument)

def read (o : Options) (argument : String) : Except Misuse Item :=
  match cutAtEquals argument with
  | (name, value) =>
    if o.flags.contains name then
      if value.isNone then .ok (.flags [name]) else .error (.unwantedValue name)
    else if o.valued.contains name then
      .ok (match value with
        | some value => .value name value
        | none => .awaiting name)
    else if Text.beginsWith "--" argument then .error (.unknownOption argument)
    else o.readLetters argument

/-- A dash alone is an operand. -/
def isOption (argument : String) : Bool :=
  Text.beginsWith "-" argument && argument ≠ "-"

def parse (o : Options) : List String → Except Misuse Arguments
  | [] => .ok {}
  | argument :: rest =>
    if argument = "--" then .ok { operands := rest }
    else if isOption argument then
      match o.read argument with
      | .error misuse => .error misuse
      | .ok (.flags names) => (o.parse rest).map fun a => { a with flags := names ++ a.flags }
      | .ok (.value option value) =>
        (o.parse rest).map fun a => { a with values := (option, value) :: a.values }
      | .ok (.awaiting option) =>
        match rest with
        | [] => .error (.missingValue option)
        | value :: rest =>
          (o.parse rest).map fun a => { a with values := (option, value) :: a.values }
    else if o.anywhere then
      (o.parse rest).map fun a => { a with operands := argument :: a.operands }
    else .ok { operands := argument :: rest }

end Options

end DocTrace.CommandLine
