import DocTrace.Graph.Basic

/-!
From documents to their graph. First every identifier is registered and the
links of the headers are drawn on the side that declares them. Then follow the
implied edges, which both ends know of: from a hub to the documents in its
folder, and between a document and the identifiers in its diagram, unless the
child has a declared parent. Nothing is checked here.
-/

namespace DocTrace

structure Graph.Sources where
  assets : List Asset
  analyses : Table String Analysis := {}
  hubs : List HubFolder := []
  folders : Table String (List String) := {}
  folderPrefixes : Table String String := {}
  exemptIds : List String := []
  directories : List String := []
  foreignFiles : List String := []
  systemFolders : List String := [othersFolder, footnotesFolder]

namespace Graph

structure Declaration where
  source : String
  file : String
  uplink : Option String
  downlinks : List String
  requirements : List String

/-- The links of a declaration in the order in which they are drawn. -/
def Declaration.links (d : Declaration) : List Link :=
  ((d.uplink.filter (· ≠ "")).toList.map fun t => ⟨d.source, t, .uplink, d.file⟩) ++
    (d.requirements.map fun t => ⟨d.source, t, .requirement, d.file⟩) ++
    d.downlinks.map fun t => ⟨d.source, t, .downlink, d.file⟩

/-- The declarations of a document: its own, if it has an identifier, and those of its entities. -/
def declarationsOf (a : Asset) : List Declaration :=
  (a.id?.toList.map fun id =>
    ⟨id, a.path, a.header.uplink, a.header.downlinks.getD [], a.header.requirements.getD []⟩) ++
    a.header.entities.map fun e =>
      ⟨e.id, a.path, e.uplink, e.downlinks.getD [], e.requirements.getD []⟩

/-- Registers an identifier for a file. The first file keeps it. -/
def register (g : Graph) (id file : String) : Graph × List Notice :=
  match g.idToFile.find? id with
  | none => ({ g with idToFile := g.idToFile.put id file }, [])
  | some first =>
    if first = file then (g, [])
    else
      let files := (g.duplicates.find? id).getD [first]
      ({ g with duplicates := g.duplicates.put id (addNew files file) },
        [.declaredAgain id file first])

def registerAll (g : Graph) : List (String × String) → Graph × List Notice
  | [] => (g, [])
  | (id, file) :: rest =>
    let (g, notices) := g.register id file
    let (g, more) := g.registerAll rest
    (g, notices ++ more)

def drawLink (g : Graph) (l : Link) : Graph :=
  let g :=
    match l.kind with
    | .downlink => g.addDownlink l.source l.target
    | _ => g.addUplink l.source l.target
  ({ g with declaredLinks := g.declaredLinks ++ [l] }.refer l.target).ensure l.target

def declare (g : Graph) (d : Declaration) : Graph := d.links.foldl drawLink (g.ensure d.source)

/-- Names under which a file can be addressed besides its declared identifiers. -/
def aliasesOf (a : Asset) : List String :=
  (if a.isNote then [a.stem] else []) ++ (if a.isFootnote then a.id?.toList else [])

def addAlias (g : Graph) (id file : String) : Graph :=
  if g.isDeclared id then g
  else { g with idToFile := g.idToFile.put id file, stemIds := addNew g.stemIds id }

/-- Two or more capital letters and an underscore. -/
def isSemanticId (id : String) : Bool :=
  let capitals := id.toList.takeWhile Char.isUpper
  2 ≤ capitals.length && (id.toList.drop capitals.length).head? = some '_'

/-- Whether a header declares a parent for an identifier. -/
def hasDeclaredParent (g : Graph) (id : String) : Bool :=
  g.declaredLinks.any fun l => l.source = id && l.kind ≠ .downlink

/-- Parent and child of the edge between a document and an identifier in its
diagram. A persona drives the journeys and requirements that it appears in. -/
def ownership (fileId found : String) : String × String :=
  if Text.beginsWith "PER_" found &&
      (Text.beginsWith "JRN_" fileId || Text.beginsWith "REQ_" fileId) then (found, fileId)
  else (fileId, found)

def own (g : Graph) (fileId found : String) : Graph :=
  if found = fileId || !isSemanticId found then g
  else
    let (parent, child) := ownership fileId found
    let g := g.refer found
    if g.hasDeclaredParent child then g else g.connect parent child

def joinHub (g : Graph) (path fileId : String) : Graph :=
  match g.hubFor? path with
  | some hub => if hub.id = fileId then g else (g.connect hub.id fileId).refer fileId
  | none => g

/-- The implied edges and references of one document. A diagram does not refer
to the file that it is in. -/
def imply (g : Graph) (a : Asset) : Graph :=
  let analysis := g.analyses.find? a.path
  let endpoints := (analysis.map Analysis.endpoints).getD []
  let g := (endpoints.filter fun e => some e ≠ a.header.id).foldl refer g
  match a.id? with
  | none => g
  | some id => ((analysis.map Analysis.nodes).getD []).foldl (own · id) (g.joinHub a.path id)

/-- The classification of the document's identifier: the declared one, or else
that of a requirement without a requirement above it. -/
def classify (g : Graph) (id : String) (declared : Option String) : Graph :=
  match declared with
  | some text => g.describe id classificationKey (.str text)
  | none =>
    if Text.beginsWith "REQ_" id && (g.metadata? id classificationKey).isNone &&
        !(g.linkedUplinks id).any (Text.beginsWith "REQ_") then
      g.describe id classificationKey (.str defaultClassification)
    else g

def describeEntity (g : Graph) (e : Entity) : Graph :=
  match e.classification.filter (· ≠ "") with
  | some text => g.describe e.id classificationKey (.str text)
  | none => g

def describeAsset (g : Graph) (a : Asset) : Graph :=
  let g :=
    match a.id? with
    | some id => (g.describe id fileRootKey (.bool true)).classify id a.header.classificationText
    | none => g
  a.header.entities.foldl describeEntity g

def start (s : Sources) : Graph :=
  let hubIds := s.hubs.map (·.id)
  { analyses := s.analyses, hubs := s.hubs, folders := s.folders, folderPrefixes := s.folderPrefixes
    files := s.assets.map (·.path), directories := s.directories, foreignFiles := s.foreignFiles
    systemFolders := s.systemFolders
    exemptIds := (hubIds ++ s.exemptIds).foldl addNew [rootId]
    referencedIds := hubIds.foldl addNew [rootId] }

def Sources.documents (s : Sources) : List Asset := s.assets.filter fun a => !a.isFootnote

/-- Whether the classification of every document with an identifier has a text. -/
def Sources.canClassify (s : Sources) : Bool :=
  s.documents.all fun a => a.id?.isNone || a.header.canClassify

def build (s : Sources) : Graph × List Notice :=
  let documents := s.documents
  let (g, notices) :=
    (start s).registerAll (documents.flatMap fun a => a.header.allIds.map (·, a.path))
  -- All links are drawn before an edge is implied: a declared parent keeps an implied one away.
  let g := (documents.flatMap declarationsOf).foldl declare g
  -- Aliases come after the declared identifiers, none of which they replace.
  let g := (s.assets.flatMap fun a => (aliasesOf a).map (·, a.path)).foldl
    (fun g e => g.addAlias e.1 e.2) g
  let g := documents.foldl imply g
  let g := documents.foldl describeAsset g
  (g, notices ++ [.graphBuilt g.nodes.size g.idToFile.size g.duplicates.size])

end Graph

end DocTrace
