import DocTrace.Header.Validation
import DocTrace.Path.Basic
import DocTrace.Text.Case

/-!
Documents of a project. A document has a path below the documentation root, a
header and a body; the ending of its name tells whether it is a diagram or a note.
-/

namespace DocTrace

structure Asset where
  path : String
  header : Header
  body : String

def diagramSuffixes : List String := [".mermaid", ".mmd"]

def noteSuffixes : List String := [".md"]

def footnotesFolder : String := "footnotes"

def othersFolder : String := "others"

def lowerSuffix (path : String) : String := Text.lowerString (Path.ofText path).suffix

/-- Whether a file lies in a folder for footnotes, at any depth. -/
def isFootnote (path : String) : Bool := (Path.ofText path).parts.dropLast.contains footnotesFolder

namespace Asset

def suffix (a : Asset) : String := lowerSuffix a.path

def stem (a : Asset) : String := (Path.ofText a.path).stem

/-- The directory of the document, empty for the root. -/
def folder (a : Asset) : String :=
  let parent := (Path.ofText a.path).parent
  if parent = {} then "" else parent.toText

def isDiagram (a : Asset) : Bool := diagramSuffixes.contains a.suffix

def isNote (a : Asset) : Bool := noteSuffixes.contains a.suffix

def isFootnote (a : Asset) : Bool := DocTrace.isFootnote a.path

/-- The document's identifier, unless it is empty. -/
def id? (a : Asset) : Option String := a.header.id?

def ofText (path text : String) : Except Yaml.Fault Asset :=
  (Header.parse text).map fun (header, body) => { path, header, body }

end Asset

end DocTrace
