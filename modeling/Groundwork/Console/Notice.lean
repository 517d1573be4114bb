import Groundwork.Console.Frame

/-!
# Notices

What a command tells its user while it runs and when it has ended. Names and paths in file actions,
next steps and errors show as they are; text in headings and notes is markup.
-/

namespace Groundwork.Console

/-- Something that a command tells its user. -/
inductive Notice where
  /-- What the command is about to do, between empty lines. -/
  | heading (dryRun : Bool) (text : Text)
  /-- What happened to a file or directory. -/
  | action (dryRun : Bool) (label : Text) (path : Text)
  /-- What the user should do next. -/
  | nextSteps (steps : List Text)
  /-- The schema file in this directory was left as it is. -/
  | schemaKept (dbFolder : Text)
  | error (message : Text)
  | created (path : Text)
  deriving DecidableEq, Repr

namespace Notice

/-- The mark of a dry run. -/
def dryRunMark (dryRun : Bool) : Text := if dryRun then "\\[dry-run] " else ""

/-- Columns of the label of a file action. -/
def labelWidth : Nat := 10

/-- The lines of next steps, numbered from 1. -/
def stepLines (steps : List Text) : List Text :=
  steps.mapIdx fun i step => "  " ++ Text.ofNat (i + 1) ++ ". " ++ escape step

/-- What the console prints for a notice. -/
def render : Notice → Except Failure Text
  | heading dryRun text => print ("\n" ++ dryRunMark dryRun ++ text ++ "...\n")
  | action dryRun label path =>
    print (dryRunMark dryRun ++ Text.padLeft labelWidth label ++ "  " ++ escape path)
  | nextSteps steps => do
    return panel "Done"
      (← shown (List.intercalate "\n" ("[bold]Next steps:[/bold]" :: stepLines steps)))
  | schemaKept dbFolder => do
    let note ← print
      ("[bold yellow]\nNote: Schema in " ++ dbFolder
        ++ "/schema.ts was not modified.[/bold yellow]")
    return note ++ "      Remove the table definition manually if needed.\n"
  | error message => print ("Error: " ++ escape message)
  | created path => print ("✓ Created " ++ path)

end Notice

end Groundwork.Console
