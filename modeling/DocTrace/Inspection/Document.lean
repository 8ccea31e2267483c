import DocTrace.Finding
import DocTrace.Diagram.Cleaning
import DocTrace.Graph.Basic

/-!
Checks of one document: its notation, header, file name and place.
-/

namespace DocTrace.Inspection

open Finding (quoted)

/-- The first line of a diagram that is not header or comment. -/
def firstLine (a : Asset) : List Char :=
  Text.trim ((Diagram.cleanLines a.body.toList).headD [])

/-- Whether the first word of a line is a keyword, or continues it after a dash. -/
def opensWith (line : List Char) (keyword : String) : Bool :=
  let word := Text.firstWord line
  word = keyword.toList || (keyword.toList ++ ['-']).isPrefixOf word

def wrongOpening (keywords : List String) (a : Asset) : List String :=
  let line := firstLine a
  if !a.isDiagram || keywords.any (opensWith line) then []
  else
    let expected := Text.joinWith " or " (keywords.map quoted)
    let found := if line.isEmpty then "<empty>" else String.ofList line
    [s!"Must use {expected} syntax. Found: " ++ quoted found]

/-- A message for each of the fields that the header lacks. -/
def missingFields (fields : List String) (a : Asset) : List String :=
  (fields.filter fun f => !a.header.has f).map fun f =>
    "Missing required front matter: " ++ quoted f

def wrongExtension (wanted : String) (a : Asset) : List String :=
  let wanted := String.ofList ('.' :: Text.lower (wanted.toList.dropWhile (· = '.')))
  if a.suffix = wanted then []
  else
    let found := if a.suffix = "" then "<none>" else a.suffix
    ["File must have extension " ++ quoted wanted ++ ". Found " ++ quoted found]

/-- A message for each of the names that no node of the diagram has, in any letter case. -/
def missingNodes (nodes : List String) (g : Graph) (a : Asset) : List String :=
  let present := ((g.analyses.find? a.path).map Analysis.nodes).getD [] |>.map Text.lowerString
  (nodes.filter fun n => !present.contains (Text.lowerString n)).map fun n =>
    "Missing required node: " ++ quoted n

def isReferenced (g : Graph) (id : String) : Bool :=
  g.referencedIds.contains id || g.exemptIds.contains id

def unlinkedIds (g : Graph) (a : Asset) : List Finding :=
  (a.header.allIds.filter fun id => !isReferenced g id).map fun id =>
    { message := "Orphan detected: " ++ quoted id ++
        s!" in {a.path} is not linked to by any other document"
      id := some id }

def journeyTrace (g : Graph) (a : Asset) : List String :=
  match a.id? with
  | none => []
  | some id =>
    if (g.linkedUplinks id).any (Text.beginsWith "PER_") then []
    else
      ["Journey must trace to a persona (PER_xxx): add it as uplink " ++
        "or as a participant of the sequence"]

def footnotesPolicy (a : Asset) : List String :=
  (if a.isNote then [] else ["Footnotes must be Markdown (.md) files"]) ++
    missingFields ["id", "title", "description"] a

/-- The note at the root that the rules on notes leave out. -/
def rulesGuide : String := "RULES_GUIDE.md"

def filenameId (a : Asset) : List String :=
  match a.header.id with
  | none => []
  | some id =>
    if a.path = rulesGuide || id = a.stem then []
    else ["File name " ++ quoted a.stem ++ " does not match declared id " ++ quoted id]

/-- The first governed folder of the document whose beginning its identifier lacks. -/
def idPrefix (g : Graph) (a : Asset) : List String :=
  match a.id? with
  | none => []
  | some id =>
    if a.isFootnote then []
    else
      let breaks (e : String × String) : Bool :=
        Text.beginsWith (e.1 ++ "/") a.path && !Text.beginsWith e.2 id
      match g.folderPrefixes.entries.find? breaks with
      | none => []
      | some (folder, start) =>
        ["Id " ++ quoted id ++ " must start with " ++ quoted start ++ " for documents in " ++
          quoted (folder ++ "/")]

def headerSchema (a : Asset) : List String :=
  a.header.errors.map fun e => "Front matter: " ++ e.message

end DocTrace.Inspection
