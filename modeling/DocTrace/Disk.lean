import DocTrace.Path.Basic
import DocTrace.Table
import DocTrace.Text.Line
import DocTrace.Text.Utf8

/-!
A directory tree and the files in it. Two dots in a path lead to the directory
above, and every step of a path goes from a directory. Names and paths have a
greatest length; what is longer can neither be made nor asked for.
-/

namespace DocTrace

/-- A place in the tree: the names on the way from the top. -/
abbrev Place := List String

inductive Disk.Entry where
  | directory
  | file (content : List UInt8)
deriving DecidableEq

structure Disk where
  entries : Table Place Disk.Entry := {}
  /-- Where relative paths start. -/
  workingDirectory : Place := []

namespace Disk

/-- The entry at a place; the top is a directory. -/
def entry? (d : Disk) (place : Place) : Option Entry :=
  if place = [] then some .directory else d.entries.find? place

def step (here : Place) (name : String) : Place :=
  if name = ".." then here.dropLast else here ++ [name]

def resolveFrom (d : Disk) (here : Place) : List String → Option Place
  | [] => some here
  | name :: rest =>
    if d.entry? here = some .directory then d.resolveFrom (step here name) rest else none

def startOf (d : Disk) (p : Path) : Place := if p.root = "" then d.workingDirectory else []

/-- The place that a path leads to, whether or not there is an entry. -/
def resolve? (d : Disk) (p : Path) : Option Place := d.resolveFrom (d.startOf p) p.segments

def find? (d : Disk) (p : Path) : Option Entry := (d.resolve? p).bind d.entry?

def isDirectory (d : Disk) (p : Path) : Bool := d.find? p = some .directory

def file? (d : Disk) (p : Path) : Option (List UInt8) :=
  match d.find? p with
  | some (.file content) => some content
  | _ => none

def maxName : Nat := 255

def maxPath : Nat := 4095

def hasLongName (d : Disk) (here : Place) : List String → Bool
  | [] => false
  | name :: rest =>
    d.entry? here = some .directory &&
      (name.utf8ByteSize > maxName || d.hasLongName (step here name) rest)

/-- Whether a path cannot be asked for: it is too long as a whole, or an existing directory is
asked for a name that is too long. -/
def isTooLong (d : Disk) (p : Path) : Bool :=
  p.toText.utf8ByteSize > maxPath || d.hasLongName (d.startOf p) p.segments

def makeFrom (d : Disk) (here : Place) : List String → Disk × Option Place
  | [] => (d, if d.entry? here = some .directory then some here else none)
  | name :: rest =>
    let next := step here name
    if d.entry? here ≠ some .directory then (d, none)
    else
      match d.entry? next with
      | some .directory => d.makeFrom next rest
      | some (.file _) => (d, none)
      | none =>
        if name.utf8ByteSize > maxName then (d, none)
        else makeFrom { d with entries := d.entries.put next .directory } next rest

/-- Makes a directory and those above it, as far as no file and no name that is too long is in
the way. The disk afterwards, and the place of the directory if it was made. -/
def makeDirectory (d : Disk) (p : Path) : Disk × Option Place :=
  d.makeFrom (d.startOf p) p.segments

/-- Writes a file into a directory. A directory in its place makes it fail. -/
def writeAt? (d : Disk) (place : Place) (content : List UInt8) : Option Disk :=
  if d.entry? place = some .directory then none
  else some { d with entries := d.entries.put place (.file content) }

/-- Writes a file, making the directories above it. -/
def write? (d : Disk) (p : Path) (content : List UInt8) : Option Disk :=
  match d.makeDirectory p.parent with
  | (made, some here) => made.writeAt? (step here p.name) content
  | (_, none) => none

def removeAt (d : Disk) (place : Place) : Disk :=
  { d with entries := d.entries.filter fun other _ => !place.isPrefixOf other }

def remove (d : Disk) (p : Path) : Disk :=
  match d.resolve? p with
  | some place => d.removeAt place
  | none => d

/-- Order by the first name that differs; a directory comes before what it holds. -/
def placeLe : Place → Place → Bool
  | [], _ => true
  | _ :: _, [] => false
  | a :: as, b :: bs => a < b || (a = b && placeLe as bs)

/-- All entries below a directory with their places from there, in order. -/
def below (d : Disk) (p : Path) : List (Place × Entry) :=
  match d.resolve? p with
  | none => []
  | some place =>
    (d.entries.entries.filterMap fun (other, entry) =>
      if place.isPrefixOf other && place ≠ other then some (other.drop place.length, entry)
      else none).mergeSort fun a b => placeLe a.1 b.1

/-- The text of a file: its bytes in UTF-8, with every line break as one LF. -/
def textOf (content : List UInt8) : Except Text.Utf8.Fault String :=
  (Text.Utf8.decode content).map fun s => .ofList (Text.unifyNewlines s)

end Disk

end DocTrace
