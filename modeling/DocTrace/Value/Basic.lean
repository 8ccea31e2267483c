import DocTrace.Json.Basic
import DocTrace.Value.Calendar

/-!
Values of a YAML document. Mappings and sets keep the order in which their keys
came first. A collection that contains itself is a knot: its label names the
places inside of it where it comes back, and unfolding puts it there.
-/

namespace DocTrace

inductive Value where
  | null
  | bool (b : Bool)
  | int (i : Int)
  | float (x : Binary64)
  | str (s : String)
  | date (d : Date)
  | moment (t : Moment)
  | bytes (content : List UInt8)
  | list (items : List Value)
  | pair (first second : Value)
  | map (entries : List (Value × Value))
  | set (items : List Value)
  /-- A list or a mapping that comes back inside of itself. -/
  | knot (label : Nat) (content : Value)
  /-- The place where the collection with a label comes back. -/
  | again (label : Nat) (isMap : Bool)

abbrev Mapping := List (Value × Value)

abbrev Fields := Table String Value

instance : Inhabited Value := ⟨.null⟩

namespace Value

def isNull : Value → Bool
  | .null => true
  | _ => false

def isTrue : Value → Bool
  | .bool true => true
  | _ => false

def isFalse : Value → Bool
  | .bool false => true
  | _ => false

def asString? : Value → Option String
  | .str s => some s
  | _ => none

mutual

/-- Puts a value where the collection with a label comes back. A knot with the same label has
places of its own. -/
def tie (label : Nat) (whole : Value) : Value → Value
  | .list items => .list (tieItems label whole items)
  | .pair first second => .pair (tie label whole first) (tie label whole second)
  | .map entries => .map (tieEntries label whole entries)
  | .knot inner content =>
    .knot inner (if inner = label then content else tie label whole content)
  | .again place isMap => if place = label then whole else .again place isMap
  | v => v

def tieItems (label : Nat) (whole : Value) : List Value → List Value
  | [] => []
  | v :: vs => tie label whole v :: tieItems label whole vs

def tieEntries (label : Nat) (whole : Value) : List (Value × Value) → List (Value × Value)
  | [] => []
  | (k, v) :: es => (k, tie label whole v) :: tieEntries label whole es

end

/-- The collection that a knot stands for, one round further. -/
def unfold : Value → Value
  | .knot label content => tie label (.knot label content) content
  | v => v

def asList? (v : Value) : Option (List Value) :=
  match v.unfold with
  | .list items => some items
  | _ => none

def asMap? (v : Value) : Option Mapping :=
  match v.unfold with
  | .map entries => some entries
  | _ => none

@[simp] theorem asList?_list (items : List Value) : asList? (.list items) = some items := rfl

@[simp] theorem asMap?_map (entries : Mapping) : asMap? (.map entries) = some entries := rfl

/-- Whether a value counts as true: zero and everything empty do not. -/
def truthy : Value → Bool
  | .null => false
  | .bool b => b
  | .int i => i ≠ 0
  | .float x => !x.isZero
  | .str s => s ≠ ""
  | .bytes bs => !bs.isEmpty
  | .list items => !items.isEmpty
  | .map entries => !entries.isEmpty
  | .set items => !items.isEmpty
  | _ => true

/-- Numbers and truth values as one kind: an integer or a floating-point number. -/
def number? : Value → Option (Int ⊕ Binary64)
  | .bool b => some (.inl (if b then 1 else 0))
  | .int i => some (.inl i)
  | .float x => some (.inr x)
  | _ => none

def eqNumber : Int ⊕ Binary64 → Int ⊕ Binary64 → Bool
  | .inl i, .inl j => i = j
  | .inl i, .inr x => x.eqInt i
  | .inr x, .inl i => x.eqInt i
  | .inr x, .inr y => x.eqValue y

def eqScalar (a b : Value) : Bool :=
  match a.number?, b.number? with
  | some m, some n => eqNumber m n
  | none, none =>
    match a, b with
    | .null, .null => true
    | .str s, .str t => s = t
    | .date d, .date e => d = e
    | .moment t, .moment u => t.eqValue u
    | .bytes bs, .bytes cs => bs = cs
    | _, _ => false
  | _, _ => false

mutual

/-- Equality of values. Numbers and truth values compare by value, lists in
order, mappings and sets without regard to order. -/
def eqValue : Value → Value → Bool
  | .list xs, b =>
    match b with
    | .list ys => eqItems xs ys
    | _ => false
  | .pair x y, b =>
    match b with
    | .pair u v => eqValue x u && eqValue y v
    | _ => false
  | .map xs, b =>
    match b with
    | .map ys => xs.length = ys.length && coversEntries xs ys
    | _ => false
  | .set xs, b =>
    match b with
    | .set ys => xs.length = ys.length && coversItems xs ys
    | _ => false
  | a, b => eqScalar a b

def eqItems : List Value → List Value → Bool
  | [], ys => ys.isEmpty
  | x :: xs, ys =>
    match ys with
    | [] => false
    | y :: ys => eqValue x y && eqItems xs ys

def coversEntries : List (Value × Value) → List (Value × Value) → Bool
  | [], _ => true
  | (k, v) :: xs, ys => (ys.any fun e => eqValue k e.1 && eqValue v e.2) && coversEntries xs ys

def coversItems : List Value → List Value → Bool
  | [], _ => true
  | x :: xs, ys => ys.any (eqValue x) && coversItems xs ys

end

/-- Collections cannot be keys. -/
def isHashable : Value → Bool
  | .list _ => false
  | .map _ => false
  | .set _ => false
  | .knot .. => false
  | .again .. => false
  | .pair x y => x.isHashable && y.isHashable
  | _ => true

mutual

def ofJson : Json → Value
  | .null => .null
  | .bool b => .bool b
  | .int i => .int i
  | .float x => .float x
  | .str s => .str s
  | .array items => .list (ofJsonItems items)
  | .object members => .map (ofJsonMembers members)

def ofJsonItems : List Json → List Value
  | [] => []
  | j :: js => ofJson j :: ofJsonItems js

def ofJsonMembers : List (String × Json) → List (Value × Value)
  | [] => []
  | (key, j) :: ms => (.str key, ofJson j) :: ofJsonMembers ms

end

end Value

namespace Mapping

def find? (m : Mapping) (key : String) : Option Value :=
  (List.find? (fun e => e.1.asString? = some key) m).map (·.2)

/-- Writes a value under a key, in its place if there is one. -/
def put (m : Mapping) (key value : Value) : Mapping :=
  if List.any m fun e => e.1.eqValue key then
    List.map (fun e => if e.1.eqValue key then (e.1, value) else e) m
  else m ++ [(key, value)]

/-- All entries of `m`, with those of `other` written over them. -/
def merge (m other : Mapping) : Mapping :=
  List.foldl (fun acc e => put acc e.1 e.2) m other

end Mapping

end DocTrace
