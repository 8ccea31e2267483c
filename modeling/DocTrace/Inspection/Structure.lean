import DocTrace.Inspection.Document

/-!
Checks of the project's files and folders.
-/

namespace DocTrace.Inspection

open Finding (quoted bracketed)

def imageSuffixes : List String := [".png", ".jpg", ".jpeg", ".svg", ".gif"]

/-- Whether the first segment of a path is the folder for other files. -/
def inOthers (path : String) : Except Finding.Crash Bool :=
  match (Path.ofText path).parts with
  | [] => .error .emptyPath
  | first :: _ => .ok (first = othersFolder)

def foreignFile (path : String) : Except Finding.Crash (List Finding) := do
  if (← inOthers path) || imageSuffixes.contains (lowerSuffix path) then return []
  return [{ message := "Foreign file " ++ quoted path ++
              ": non-documentation files must be placed in " ++ quoted (othersFolder ++ "/")
            file := some path }]

def misplacedNote (path : String) : Except Finding.Crash (List Finding) := do
  if !Text.endsWith ".md" (Text.lowerString path) || path = rulesGuide then return []
  if (← inOthers path) || isFootnote path then return []
  return [{ message := "Markdown file " ++ quoted path ++
              " must reside in a \"footnotes\" folder (only \"others/\" and root " ++
              quoted rulesGuide ++ " are exempt)"
            file := some path }]

def documentPlacement (g : Graph) : Except Finding.Crash (List Finding) := do
  let foreign ← g.foreignFiles.mapM foreignFile
  let notes ← g.files.mapM misplacedNote
  return foreign.flatten ++ notes.flatten

def covers (folder directory : String) : Bool :=
  directory = folder || Text.beginsWith (folder ++ "/") directory

/-- System folders and all below them need no claim. -/
def inSystemFolder (g : Graph) (directory : String) : Bool :=
  (Path.ofText directory).parts.any g.systemFolders.contains

def unregistered (g : Graph) (directory : String) : List Finding :=
  if inSystemFolder g directory || g.folders.keys.any (covers · directory) then []
  else
    [{ message := "Folder " ++ quoted directory ++
         " is not registered by any folder rule and is not a system folder " ++
         bracketed g.systemFolders
       file := some directory }]

def sharedClaim (folder : String) (rules : List String) : List Finding :=
  if rules.length ≤ 1 then []
  else
    [{ message := "Folder " ++ quoted folder ++ " is claimed by several folder rules: " ++
         Text.joinWith ", " rules
       file := some folder }]

def folderRegistry (g : Graph) : List Finding :=
  g.directories.flatMap (unregistered g) ++
    g.folders.entries.flatMap fun e => sharedClaim e.1 e.2

def duplicateIds (g : Graph) : List Finding :=
  g.duplicates.entries.map fun (id, files) =>
    { message := "Identifier " ++ quoted id ++ " is declared in multiple files: " ++
        Text.joinWith ", " files
      file := files.head?
      id := some id }

end DocTrace.Inspection
