import DocTrace.Number.Shortest
import DocTrace.Value.Basic

/-!
The text of a value in messages. A text shows as itself on its own and between
quotes inside of collections.
-/

namespace DocTrace.Value

def scalarLiteral : Value → String
  | .bool true => "True"
  | .bool false => "False"
  | .int i => toString i
  | .float x => x.toText
  | .str s => Text.Quoted.quoteString s
  | .date d => d.toLiteral
  | .moment t => t.toLiteral
  | .bytes bs => .ofList (Text.Quoted.quoteBytes bs)
  | _ => "None"

def kindName : Value → String
  | .null => "NoneType"
  | .bool _ => "bool"
  | .int _ => "int"
  | .float _ => "float"
  | .str _ => "str"
  | .date _ => "date"
  | .moment _ => "datetime"
  | .bytes _ => "bytes"
  | .list _ => "list"
  | .pair .. => "tuple"
  | .map _ => "dict"
  | .set _ => "set"
  | .knot _ content => content.kindName
  | .again _ false => "list"
  | .again _ true => "dict"

def cutLiteral (isMap : Bool) : String := if isMap then "\x7b...\x7d" else "[...]"

def isMapping : Value → Bool
  | .map _ => true
  | .knot _ content => content.isMapping
  | .again _ isMap => isMap
  | _ => false

mutual

/-- The literal of a value inside of the collections with some labels. -/
def literalInside (labels : List Nat) : Value → String
  | .list items => "[" ++ itemsLiteral labels items ++ "]"
  | .pair first second =>
    "(" ++ literalInside labels first ++ ", " ++ literalInside labels second ++ ")"
  | .map entries => "\x7b" ++ entriesLiteral labels entries ++ "\x7d"
  | .set [] => "set()"
  | .set (x :: xs) => "\x7b" ++ itemsLiteral labels (x :: xs) ++ "\x7d"
  | .knot label content =>
    if labels.contains label then cutLiteral content.isMapping
    else literalInside (label :: labels) content
  | .again _ isMap => cutLiteral isMap
  | v => scalarLiteral v

def itemsLiteral (labels : List Nat) : List Value → String
  | [] => ""
  | [v] => literalInside labels v
  | v :: vs => literalInside labels v ++ ", " ++ itemsLiteral labels vs

def entriesLiteral (labels : List Nat) : List (Value × Value) → String
  | [] => ""
  | [(k, v)] => literalInside labels k ++ ": " ++ literalInside labels v
  | (k, v) :: es =>
    literalInside labels k ++ ": " ++ literalInside labels v ++ ", " ++ entriesLiteral labels es

end

def toLiteral (v : Value) : String := v.literalInside []

def toText : Value → String
  | .str s => s
  | .date d => d.toText
  | .moment t => t.toText
  | v => v.toLiteral

def maxShownDigits : Nat := 4300

/-- The first magnitude that has more digits than are shown. -/
def shownLimit : Nat := Nat.pow 10 maxShownDigits

mutual

/-- Whether a value has a text: none of its integers has too many digits. -/
def isShowable : Value → Bool
  | .int i => i.natAbs < shownLimit
  | .list items => areShowable items
  | .pair first second => isShowable first && isShowable second
  | .map entries => entriesShowable entries
  | .set items => areShowable items
  | .knot _ content => isShowable content
  | _ => true

def areShowable : List Value → Bool
  | [] => true
  | v :: vs => isShowable v && areShowable vs

def entriesShowable : List (Value × Value) → Bool
  | [] => true
  | (k, v) :: es => isShowable k && isShowable v && entriesShowable es

end

end DocTrace.Value
