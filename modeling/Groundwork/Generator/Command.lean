import Groundwork.Console.Notice
import Groundwork.Disk.Basic
import Groundwork.Generator.Report
import Groundwork.Project.Settings

/-!
# Commands

A command runs on a disk, records what it does and tells its user. It may fail, and then all that
it did before is still recorded. `writeFile` and `removeDirectory` are the only steps that change
the disk; in a dry run they record and tell the same and change nothing.
-/

namespace Groundwork

/-- The state that a command works on. -/
structure Session where
  disk : Disk
  report : Report := {}
  /-- What the console has printed. -/
  output : Text := []
  deriving Repr

/-- A computation that works on a session and may fail. -/
abbrev Command (α : Type) := ExceptT Failure (StateM Session) α

/-- What a command is run with. -/
structure Generator where
  settings : Settings
  options : Options := {}
  deriving DecidableEq, Repr

namespace Command

/-- The result of an operation that does not touch the session. -/
def attempt {α : Type} : Except Failure α → Command α
  | .ok a => pure a
  | .error failure => throw failure

/-- Print a notice. -/
def notify (notice : Console.Notice) : Command Unit := do
  let text ← attempt notice.render
  modify fun s => { s with output := s.output ++ text }

/-- Replace the disk. -/
def setDisk (disk : Disk) : Command Unit := modify fun s => { s with disk }

/-- Add a file to the report. -/
def recordFile (file : GeneratedFile) : Command Unit :=
  modify fun s => { s with report := { s.report with files := s.report.files ++ [file] } }

/-- Add a removed directory to the report. -/
def recordRemoval (path : Text) : Command Unit :=
  modify fun s => { s with report := { s.report with removed := s.report.removed ++ [path] } }

end Command

namespace Generator

open Command

/-- The disk with a file written, and with the directories that lead to it. No path on a disk holds
    the character NUL. -/
def store (disk : Disk) (path : Path) (content : Text) : Disk × Except Failure Unit :=
  if path.render.contains '\x00' then (disk, .error .nulInPath)
  else match disk.makeDirectories path.parent with
    | (disk, .error failure) => (disk, .error failure)
    | (disk, .ok _) =>
      match disk.write path content with
      | .ok disk => (disk, .ok ())
      | .error failure => (disk, .error failure)

/-- What happens to a file that is to be written. A file whose contents were merged is updated; any
    other file that exists is overwritten only where this is forced. -/
def fileAction (g : Generator) (disk : Disk) (path : Text) (merged : Bool) : FileAction :=
  if !disk.has (g.settings.root.join path) then .create
  else if merged then .update
  else if g.options.force then .force
  else .skip

/-- Write a file, given by its path from the project's directory, unless it exists and is to be
    kept. -/
def writeFile (g : Generator) (path content : Text) (merged : Bool) : Command Unit := do
  let full := g.settings.root.join path
  attempt ((← get).disk.checkNames full)
  let action := g.fileAction (← get).disk path merged
  notify (.action g.options.dryRun action.word path)
  if action ≠ .skip && !g.options.dryRun then
    let (disk, stored) := store (← get).disk full content
    setDisk disk
    attempt stored
  recordFile ⟨path, content, action⟩

/-- Remove a directory, given by its path from the project's directory, if it exists. -/
def removeDirectory (g : Generator) (path : Text) : Command Unit := do
  let full := g.settings.root.join path
  attempt ((← get).disk.checkNames full)
  if !(← get).disk.has full then notify (.action g.options.dryRun "not found" path)
  else
    notify (.action g.options.dryRun "remove" path)
    if !g.options.dryRun then setDisk (← attempt ((← get).disk.removeTree full))
    recordRemoval path

end Generator

end Groundwork
