import DocTrace.AnalysisCache.Age
import DocTrace.AnalysisCache.Entry
import DocTrace.Diagram.Kind
import DocTrace.Digest.Sha256
import DocTrace.Disk
import DocTrace.Json.Reader
import DocTrace.Notice

/-!
The cache of analyses. An analysis is stored under the digest of its content and
never replaced; the cache remembers what was used and whether it differs from
the document on disk. A document that cannot be used counts as empty and is
written anew.
-/

namespace DocTrace

/-- A cache without a path is never written. -/
structure AnalysisCache where
  path : Option Path := none
  entries : Table String AnalysisCache.Entry := {}
  /-- Whether there is something to write. -/
  dirty : Bool := false
  /-- The digests that were asked for or stored. -/
  used : List String := []
  hits : Nat := 0
  misses : Nat := 0

namespace AnalysisCache

/-! ### Lookups -/

def contains (c : AnalysisCache) (content : String) : Bool :=
  c.entries.contains (contentHash content)

def get (c : AnalysisCache) (content : String) : Option Analysis × AnalysisCache :=
  let key := contentHash content
  match c.entries.find? key with
  | none => (none, { c with misses := c.misses + 1 })
  | some e => (some e.toAnalysis, { c with hits := c.hits + 1, used := addNew c.used key })

/-- Stores an analysis; an entry that is there already stays, and is the result. -/
def put (c : AnalysisCache) (now : Int) (content : String) (a : Analysis)
    (filePath : Option String) : Entry × AnalysisCache :=
  let key := contentHash content
  let used := addNew c.used key
  match c.entries.find? key with
  | some e => (e, { c with used })
  | none =>
    let e := Entry.ofAnalysis key now a filePath
    (e, { c with used, entries := c.entries.put key e, dirty := true })

def unknownNotation (content : String) : List Notice :=
  let name := detectType content
  if (DiagramKind.find? name).isNone then [.noAnalyzer name] else []

/-- The stored analysis, or else a new one that is stored. -/
def analyze (c : AnalysisCache) (now : Int) (content : String) (filePath : Option String) :
    Analysis × AnalysisCache × List Notice :=
  match c.get content with
  | (some a, c) => (a, c, [])
  | (none, c) =>
    let a := DocTrace.analyze content
    (a, (c.put now content a filePath).2, unknownNotation content)

/-! ### Maintenance -/

/-- Drops the entries that are too old and were not used, and tells how many. -/
def prune (c : AnalysisCache) (now : Int) (limit : AgeLimit) :
    Except AgeLimit.Fault (Nat × AnalysisCache × List Notice) :=
  limit.milliseconds.map fun age =>
    let isStale (key : String) (e : Entry) : Bool :=
      e.timestamp < now - age && !c.used.contains key
    let count := (c.entries.filter isStale).size
    -- A cache that loses nothing is not written for it.
    if count = 0 then (0, c, [])
    else
      (count, { c with entries := c.entries.filter fun k e => !isStale k e, dirty := true },
        [.cachePruned count limit.toValue])

def clear (c : AnalysisCache) : AnalysisCache := { c with entries := {}, dirty := true }

def size (c : AnalysisCache) : Nat := c.entries.size

/-! ### Persistence -/

inductive Fault where
  | integerTooLong
  | tooDeep
  | relationshipNotMapping
  | infiniteTimestamp
  /-- The path names no file. -/
  | invalidPath
  | pathTooLong
deriving DecidableEq

/-- A cache after reading its document, the fault that stopped the reading, and the notices. -/
structure Loaded where
  cache : AnalysisCache
  fault : Option Fault := none
  notices : List Notice := []

def readEntries (c : AnalysisCache) : List (String × Json) → Loaded
  | [] => { cache := c }
  | (key, j) :: rest =>
    match j with
    | .object _ =>
      match Entry.ofJson key j with
      | .ok e =>
        if e.version = formatVersion then
          readEntries { c with entries := c.entries.put key e } rest
        else readEntries { c with dirty := true } rest
      | .error .malformed =>
        let loaded := readEntries { c with dirty := true } rest
        { loaded with notices := .cacheEntrySkipped key :: loaded.notices }
      -- A fault ends the reading and keeps the entries before it.
      | .error .relationshipNotMapping => { cache := c, fault := some .relationshipNotMapping }
      | .error .infiniteTimestamp => { cache := c, fault := some .infiniteTimestamp }
    | _ => readEntries { c with dirty := true } rest

/-- Whether a document has the version of the written form. -/
def hasVersion (j : Json) : Bool :=
  match j with
  | .object _ => Entry.textOf ((j.member? "version").getD .null) = formatVersion
  | _ => false

def readDocument (c : AnalysisCache) (path : Path) (j : Json) : Loaded :=
  if !hasVersion j then
    let found := Value.ofJson ((j.member? "version").getD .null)
    { cache := { c with dirty := true }, notices := [.cacheVersion found formatVersion] }
  else
    match j.member? "entries" with
    | some (.object members) => readEntries c members
    | _ => { cache := { c with dirty := true }, notices := [.cacheWithoutEntries path.toText] }

def readBytes (c : AnalysisCache) (path : Path) (content : List UInt8) : Loaded :=
  let unreadable : Loaded :=
    { cache := { c with dirty := true }, notices := [.cacheUnreadable path.toText] }
  match Disk.textOf content with
  | .error _ => unreadable
  | .ok text =>
    match Json.read text with
    | .ok j => readDocument c path j
    | .error .malformed => unreadable
    | .error .integerTooLong => { cache := c, fault := some .integerTooLong }
    | .error .tooDeep => { cache := c, fault := some .tooDeep }

/-- Whether a path can name a file: it has a last segment and no NUL. -/
def isFilePath (p : Path) : Bool :=
  p.name ≠ "" && !p.segments.any fun s => s.toList.contains '\x00'

/-- Reads the document on disk in place of the entries. -/
def load (c : AnalysisCache) (disk : Disk) : Loaded :=
  -- What was in memory is gone, also where the reading breaks off.
  let empty := { c with entries := {}, dirty := false }
  match c.path with
  | none => { cache := empty }
  | some path =>
    if !isFilePath path then { cache := empty }
    else if disk.isTooLong path then { cache := empty, fault := some .pathTooLong }
    else
      match disk.file? path with
      | none => { cache := empty }
      | some content => readBytes empty path content

def openAt (disk : Disk) (path : Option Path) : Loaded := load { path } disk

def document (c : AnalysisCache) (now : Int) : Json :=
  .object [("version", .str formatVersion), ("lastUpdated", .int now),
    ("entries", .object (c.entries.entries.map fun (key, e) => (key, e.toJson)))]

def written (c : AnalysisCache) (now : Int) : List UInt8 :=
  Text.Utf8.encode (c.document now).compact.toList

/-- Writes a file beside its place first and moves it there then. The disk
afterwards, and whether it worked. -/
def replaceFile (disk : Disk) (path : Path) (content : List UInt8) : Disk × Bool :=
  match disk.makeDirectory path.parent with
  | (made, none) => (made, false)
  | (made, some here) =>
    let copy := path.name ++ ".tmp"
    let beside := here ++ [copy]
    if made.isTooLong (path.parent.join ⟨"", [copy]⟩) then (made, false)
    else
      match made.writeAt? beside content with
      | none => (made, false)
      | some withCopy =>
        -- The copy stays behind where the document cannot be replaced.
        match withCopy.writeAt? (Disk.step here path.name) content with
        | none => (withCopy, false)
        | some replaced => (replaced.removeAt beside, true)

/-- The result of saving: whether the document was written. -/
structure Saved where
  cache : AnalysisCache
  disk : Disk
  result : Except Fault Bool
  notices : List Notice := []

/-- Writes the document if there is something to write. A write that fails leaves
the cache as it was. -/
def save (c : AnalysisCache) (disk : Disk) (now : Int) : Saved :=
  match c.path with
  | none => ⟨c, disk, .ok false, []⟩
  | some path =>
    if !c.dirty then ⟨c, disk, .ok false, []⟩
    else if !isFilePath path then ⟨c, disk, .error .invalidPath, []⟩
    else
      match replaceFile disk path (c.written now) with
      | (disk, true) => ⟨{ c with dirty := false }, disk, .ok true, []⟩
      | (disk, false) => ⟨c, disk, .ok false, [.cacheNotWritten path.toText]⟩

end AnalysisCache

end DocTrace
