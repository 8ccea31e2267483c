import DocTrace.CommandLine.Session
import Std.Time.DateTime.Timestamp

/-!
The program. It reads the files of the project into memory, runs the command on
them, and writes the cache back if the command changed it.
-/

namespace DocTrace.Program

/-- Adds what stands at a path, and with `deep` all that is below it. -/
partial def mount (deep : Bool) (disk : Disk) (path : Path) : IO Disk := do
  let place := (← IO.currentDir) / path.toText
  if ← place.isDir then
    let disk := (disk.makeDirectory path).1
    if !deep then return disk
    (← place.readDir).foldlM (fun disk entry => mount deep disk (path.join ⟨"", [entry.fileName]⟩))
      disk
  else if ← place.pathExists then
    return (disk.write? path (← IO.FS.readBinFile place).toList).getD disk
  else return disk

/-- Adds the directories on the way to a path, and what stands there. -/
def mountWay (disk : Disk) (path : Path) : IO Disk :=
  (List.range (path.segments.length + 1)).foldlM (fun disk n =>
    mount false disk { path with segments := path.segments.take n }) disk

/-- The root of the project that the arguments name, if they can be understood. -/
def rootOf (disk : Disk) (arguments : List String) : Option Path :=
  match CommandLine.Request.parse arguments with
  | .ok (.command _ project _) => project.elim (some ⟨"/", disk.workingDirectory⟩) (some <| .ofText ·)
  | _ => none

def configOf (disk : Disk) (root : Path) : Option Config :=
  (Config.load disk root none).result.toOption

def mountProject (disk : Disk) (root : Path) : IO Disk := do
  let disk ← mountWay disk (root.join Config.configFile)
  let disk ← mountWay disk (root.join Config.ignoreFile)
  match configOf disk root with
  | none => return disk
  | some config =>
    let disk ← mountWay disk config.rulesPath
    let disk ← mountWay disk config.cacheFile
    mount true (← mountWay disk config.docsPath) config.docsPath

def storeCache (before after : Disk) (file : Path) : IO Unit := do
  match after.file? file with
  | some content =>
    if before.file? file ≠ some content then
      let here ← IO.currentDir
      IO.FS.createDirAll (here / file.parent.toText)
      IO.FS.writeBinFile (here / file.toText) ⟨content.toArray⟩
  | none => return ()

def finish (session : CommandLine.Session) : IO UInt32 := do
  IO.eprint session.diagnostics
  IO.print session.output
  match session.ending with
  | .exited code => return code.toUInt32
  | .explained => return 0
  | .misused misuse =>
    IO.eprintln s!"Error: {misuse.message}"
    return 2
  | .brokenOff _ =>
    IO.eprintln "Error: the command broke off."
    return 1

def placeOf (directory : String) : Place := (Path.ofText directory).segments

def run (arguments : List String) : IO UInt32 := do
  let start ← IO.monoMsNow
  let empty : Disk := { workingDirectory := placeOf (toString (← IO.currentDir)) }
  let root := rootOf empty arguments
  let disk ← root.elim (pure empty) (mountProject empty)
  let now := (← Std.Time.Timestamp.now).toMillisecondsSinceUnixEpoch.val
  let elapsed := Binary64.ofInt ((← IO.monoMsNow) - start)
  let session := CommandLine.Session.run { disk, now, elapsed } arguments
  if let some config := root.bind (configOf disk) then
    storeCache disk session.disk config.cacheFile
  finish session

end DocTrace.Program

def main (arguments : List String) : IO UInt32 := DocTrace.Program.run arguments
