import DocTrace.Asset
import DocTrace.Disk
import DocTrace.Ignore
import DocTrace.Notice

/-!
The documents below a directory. Entries come in the order of their paths; files
that are no documents and documents that cannot be read are listed apart.
-/

namespace DocTrace

structure Collection where
  assets : List Asset := []
  directories : List String := []
  foreignFiles : List String := []
  unreadable : List String := []

namespace Collection

def isDocument (path : String) : Bool :=
  (diagramSuffixes ++ noteSuffixes).contains (lowerSuffix path)

/-- Adds one file. A header with a scalar that its tag does not allow stops the collection. -/
def addFile (c : Collection) (path : String) (content : List UInt8) :
    Told Yaml.Fault Collection :=
  if !isDocument path then pure { c with foreignFiles := c.foreignFiles ++ [path] }
  else
    match Disk.textOf content with
    | .error _ =>
      ⟨.ok { c with unreadable := c.unreadable ++ [path] }, [.documentUnreadable path]⟩
    | .ok text =>
      .quietly ((Asset.ofText path text).map fun a => { c with assets := c.assets ++ [a] })

/-- Adds entries one after the other, leaving out the ignored ones. -/
def addAll (ignore : List String) (c : Collection) :
    List (Place × Disk.Entry) → Told Yaml.Fault Collection
  | [] => pure c
  | (place, entry) :: rest =>
    let path := Text.joinWith "/" place
    if Ignore.covers ignore path then addAll ignore c rest
    else
      match entry with
      | .directory => addAll ignore { c with directories := c.directories ++ [path] } rest
      | .file content => (c.addFile path content).andThen fun c => addAll ignore c rest

def ofDisk (disk : Disk) (docs : Path) (ignore : List String) : Told Yaml.Fault Collection :=
  (addAll ignore {} (disk.below docs)).andThen fun c =>
    ⟨.ok c, [.collected c.assets.length c.directories.length c.foreignFiles.length docs.toText]⟩

end Collection

end DocTrace
