import DocTrace.Text.Split

/-!
Paths as their segments. Empty segments and single dots are dropped when a path
is read; two leading slashes are kept apart from one.
-/

namespace DocTrace

/-- A path is relative when its root is empty. -/
structure Path where
  root : String := ""
  segments : List String := []
deriving DecidableEq

namespace Path

def rootOf (text : List Char) : String :=
  match (text.takeWhile (· = '/')).length with
  | 0 => ""
  | 2 => "//"
  | _ => "/"

def segmentsOf (text : List Char) : List String :=
  ((Text.splitOn '/' text).filter fun s => s ≠ [] && s ≠ ['.']).map .ofList

def ofText (text : String) : Path := ⟨rootOf text.toList, segmentsOf text.toList⟩

def toText (p : Path) : String :=
  if p.root = "" && p.segments.isEmpty then "."
  else p.root ++ Text.joinWith "/" p.segments

/-- The root, if there is one, and the segments. -/
def parts (p : Path) : List String := (if p.root = "" then [] else [p.root]) ++ p.segments

def name (p : Path) : String := p.segments.getLast?.getD ""

def parent (p : Path) : Path := { p with segments := p.segments.dropLast }

/-- `q` taken from `p` on, unless `q` is absolute. -/
def join (p q : Path) : Path :=
  if q.root = "" then { p with segments := p.segments ++ q.segments } else q

/-- A name before and after its last dot, both reversed. A dot at either end of
the name does not count. -/
def cutAtDot? (name : String) : Option (List Char × List Char) :=
  let reversed := name.toList.reverse
  let ending := reversed.takeWhile (· ≠ '.')
  let stem := (reversed.dropWhile (· ≠ '.')).drop 1
  if ending.isEmpty || stem.isEmpty then none else some (stem, ending)

def suffix (p : Path) : String :=
  match cutAtDot? p.name with
  | some (_, ending) => .ofList ('.' :: ending.reverse)
  | none => ""

def stem (p : Path) : String :=
  match cutAtDot? p.name with
  | some (stem, _) => .ofList stem.reverse
  | none => p.name

end Path

end DocTrace
