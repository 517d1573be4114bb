import Groundwork.CommandLine.Invocation
import Groundwork.Generator.Destroy
import Groundwork.Project.Detection

/-!
# Running a command line

An invocation runs on the disk of a project and ends with an exit code: 0 if it did what was asked,
1 if it failed, and 2 if the command line asks for nothing. Failures are reported on the console.
-/

namespace Groundwork.CommandLine

/-- How a command line ended. -/
structure Outcome where
  exitCode : Nat
  output : Text
  disk : Disk
  deriving Repr

/-- The version of this program. -/
def versionLine : Text := "brizzle 0.1.0\n"

/-- The absolute path of a project's directory, without `..`. -/
def projectPath (current : Path) (given : Option Text) : Path :=
  (current.join (given.getD [])).withoutClimbs

/-- The outcome of a failure after some output. -/
def failed (disk : Disk) (output : Text) (failure : Failure) : Outcome :=
  match (Console.Notice.error failure.message).render with
  | .ok text => ⟨1, output ++ text, disk⟩
  | .error _ => ⟨1, output, disk⟩

/-- What a dry run would have written and removed, as a tree. -/
def preview (report : Report) : Except Failure Text := do
  let branch (title : Text) (labels : List Text) : Except Failure (List Console.Tree) := do
    if labels.isEmpty then return []
    else
      let leaves ← labels.mapM fun label => do
        return Console.Tree.node (← Console.shown label) []
      return [.node title leaves]
  let files ← branch "Files" (report.written.map fun file =>
    Console.escape file.path ++ " (" ++ file.action.word ++ ")")
  let removed ← branch "Removed" (report.removed.map Console.escape)
  let tree := Console.Tree.node "Dry run - nothing was written" (files ++ removed)
  return Text.lines (tree.lines Console.consoleWidth)

/-- Run a command of a generator with the settings of a project. -/
def runCommand (disk : Disk) (root : Path) (options : Options)
    (command : Generator → Command Unit) : Outcome :=
  match Project.detect disk root with
  | .error failure => failed disk [] failure
  | .ok settings =>
    match (command { settings, options }).run.run { disk } with
    | (.error failure, s) => failed s.disk s.output failure
    | (.ok _, s) =>
      if !options.dryRun then ⟨0, s.output, s.disk⟩
      else match preview s.report with
        | .ok tree => ⟨0, s.output ++ tree, s.disk⟩
        | .error _ => ⟨1, s.output, s.disk⟩

/-- The rows of the table of settings. -/
def settingsRows (s : Settings) : List (Text × Text) := [
  ("Project structure",
    if s.useSrc then "src/ (e.g., src/app/, src/db/)" else "root (e.g., app/, db/)"),
  ("Path alias", s.pathAlias ++ "/"),
  ("App directory", s.appFolder ++ "/"),
  ("DB directory", s.dbFolder ++ "/"),
  ("Database dialect", s.dialect.word),
  ("DB import", s.dbModule),
  ("Schema import", s.schemaModule)]

/-- The table of settings; values are markup. -/
def settingsTable (s : Settings) : Except Failure Text := do
  let rows ← (settingsRows s).mapM fun (property, value) => do
    return [property, ← Console.shown value]
  return Console.table "Detected project configuration" ["Property", "Value"] rows

/-- Show the settings of a project, and write them to the settings file if asked to. -/
def runSettings (disk : Disk) (root : Path) (write force : Bool) : Outcome :=
  match Project.detect disk root with
  | .error failure => failed disk [] failure
  | .ok settings =>
    match settingsTable settings with
    | .error _ => ⟨1, [], disk⟩
    | .ok table =>
      if !write then ⟨0, table, disk⟩
      else match Project.writeSettings disk settings force with
        | .error failure => failed disk table failure
        | .ok disk =>
          match (Console.Notice.created (root.join Project.settingsName).render).render with
          | .ok text => ⟨0, table ++ text, disk⟩
          | .error _ => ⟨1, table, disk⟩

/-- The directory that an invocation works in, if it names one. -/
def Invocation.project? : Invocation → Option Text
  | .generate _ _ _ _ project => project
  | .actions _ _ project => project
  | .destroy _ _ _ project => project
  | .settings _ _ project => project
  | .version | .help => none

/-- The command that writes files for a model. -/
def Generation.command (what : Generation) (name : Text) (tokens : List Text) (g : Generator) :
    Command Unit :=
  match what with
  | .model => g.model name tokens
  | .scaffold => g.scaffold name tokens
  | .resource => g.resource name tokens
  | .api => g.api name tokens

/-- Run an invocation in a project's directory. -/
def runIn (disk : Disk) (root : Path) : Invocation → Outcome
  | .generate what name tokens options _ => runCommand disk root options (what.command name tokens)
  | .actions name options _ => runCommand disk root options fun g => g.actions name
  | .destroy kind name options _ => runCommand disk root options fun g => g.destroy kind name
  | .settings write force _ => runSettings disk root write force
  | .version => ⟨0, versionLine, disk⟩
  | .help => ⟨0, [], disk⟩

/-- A regular file stands where the path leads. -/
def isFile (disk : Disk) (path : Path) : Bool :=
  match disk.find? path with
  | some (.file _) => true
  | _ => false

/-- Run a command line in a directory. A project's directory may not be a file. -/
def run (disk : Disk) (current : Path) (words : List Text) : Outcome :=
  match Invocation.ofWords? words with
  | none => ⟨2, [], disk⟩
  | some invocation =>
    let root := projectPath current invocation.project?
    if isFile disk root then ⟨2, [], disk⟩ else runIn disk root invocation

end Groundwork.CommandLine
