import Groundwork.CommandLine.Run
import Groundwork.Disk.Changes

/-!
# The program

Reads the directory that a command line works in, runs the command line on it, and carries out what
it changed.
-/

namespace Groundwork.Main

/-- What a location is called by the system. -/
def nameOf (location : Location) : String :=
  String.ofList ("/" ++ List.intercalate "/" location)

/-- What a file with some bytes holds. -/
def contentOf (bytes : ByteArray) : Content :=
  match String.fromUTF8? bytes with
  | some s => .text s.toList
  | none => .binary bytes.toList

/-- The bytes of a file. -/
def bytesOf : Content → ByteArray
  | .text t => (String.ofList t).toUTF8
  | .binary bytes => ⟨bytes.toArray⟩

/-- Directories that hold nothing that a project's author wrote. -/
def isForeign (name : String) : Bool := name = "node_modules" || name = ".git"

/-- Add what stands at and below a location, which exists. -/
partial def readBelow (disk : Disk) (location : Location) : IO Disk := do
  let path := (← IO.currentDir) / nameOf location
  if !(← path.isDir) then
    return disk.set location (.file (contentOf (← IO.FS.readBinFile path)))
  let mut disk := disk.set location .directory
  for entry in ← path.readDir do
    unless isForeign entry.fileName do
      disk ← readBelow disk (location ++ [entry.fileName.toList])
  return disk

/-- Add the directories that lead to a location as far as they exist, and all that is below it. -/
def readFrom (disk : Disk) (location : Location) : IO Disk := do
  let mut disk := disk
  for above in (List.range location.length).map location.take do
    if ← ((← IO.currentDir) / nameOf above).isDir then
      disk := disk.set above .directory
  if ← ((← IO.currentDir) / nameOf location).pathExists then
    readBelow disk location
  else
    return disk

/-- Carry out changes. -/
def store (changes : Changes) : IO Unit := do
  let current ← IO.currentDir
  for (location, entry) in changes.removed do
    let path := current / nameOf location
    if ← path.pathExists then
      match entry with
      | .directory => IO.FS.removeDirAll path
      | .file _ => IO.FS.removeFile path
  for location in changes.made do
    IO.FS.createDirAll (current / nameOf location)
  for (location, content) in changes.written do
    IO.FS.writeBinFile (current / nameOf location) (bytesOf content)

/-- The disk with a project, and with the directories that its settings name. -/
def readProject (root : Path) : IO Disk := do
  let disk ← readFrom {} root.parts
  match Project.detect disk root with
  | .error _ => return disk
  | .ok settings =>
    let outside := [settings.appDirectory, settings.dbDirectory].map Path.withoutClimbs
    (outside.filter fun path => !root.parts.isPrefixOf path.parts).foldlM
      (fun disk path => readFrom disk path.parts) disk

end Groundwork.Main

open Groundwork in
/-- Run the command line. -/
def main (words : List String) : IO UInt32 := do
  let current := Path.ofText (← IO.currentDir).toString.toList
  let words := words.map String.toList
  let disk ←
    match CommandLine.Invocation.ofWords? words with
    | none => pure {}
    | some invocation =>
      Main.readProject (CommandLine.projectPath current invocation.project?)
  let outcome := CommandLine.run disk current words
  Main.store (disk.changes outcome.disk)
  (← IO.getStdout).putStr (String.ofList outcome.output)
  return UInt32.ofNat outcome.exitCode
