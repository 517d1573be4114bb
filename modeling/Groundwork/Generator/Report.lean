import Groundwork.Text.Basic

/-!
# Reports

What a command did: the files that it wrote or left alone, in order, and the directories that it
removed. In a dry run the report is the same and nothing is done.
-/

namespace Groundwork

/-- What happened to a file. -/
inductive FileAction where
  /-- The file did not exist. -/
  | create
  /-- The file existed and was overwritten. -/
  | force
  /-- The file existed, and what it holds was kept in the new contents. -/
  | update
  /-- The file existed and was left as it is. -/
  | skip
  deriving DecidableEq, Repr

/-- The word for an action. -/
def FileAction.word : FileAction → Text
  | create => "create"
  | force => "force"
  | update => "update"
  | skip => "skip"

/-- A file of a command. -/
structure GeneratedFile where
  /-- The path, relative to the project's directory. -/
  path : Text
  content : Text
  action : FileAction
  deriving DecidableEq, Repr

/-- What a command did. -/
structure Report where
  files : List GeneratedFile := []
  /-- Removed directories, relative to the project's directory. -/
  removed : List Text := []
  deriving DecidableEq, Repr

/-- The files that were not left alone. -/
def Report.written (report : Report) : List GeneratedFile :=
  report.files.filter fun file => file.action ≠ .skip

end Groundwork
