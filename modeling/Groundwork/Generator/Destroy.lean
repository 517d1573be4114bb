import Groundwork.Generator.Model

/-!
# Removing the files of a model

The command that removes what was generated for a model. It removes a whole directory and leaves
the schema file as it is.
-/

namespace Groundwork

/-- What can be removed. -/
inductive Removable where
  | scaffold
  | resource
  | api
  deriving DecidableEq, Repr

namespace Removable

/-- The kind that a word stands for. -/
def ofWord? (w : Text) : Option Removable :=
  if w = "scaffold" then some .scaffold
  else if w = "resource" then some .resource
  else if w = "api" then some .api
  else none

/-- The name of a kind in messages. -/
def label : Removable → Text
  | scaffold => "scaffold"
  | resource => "resource"
  | api => "API"

end Removable

namespace Generator

open Command

/-- The directory that holds what was generated for a model. -/
def directoryOf (g : Generator) (names : ModelNames) : Removable → Text
  | .scaffold | .resource => g.pagePath names []
  | .api => g.apiPath names

/-- Remove what was generated for a model. -/
def destroy (g : Generator) (kind name : Text) : Command Unit := do
  match Removable.ofWord? kind with
  | none => throw (.kindUnknown kind)
  | some removable =>
    attempt (checkModelName name)
    let names := ModelNames.ofName name
    notify (.heading g.options.dryRun ("Destroying " ++ removable.label ++ " " ++ names.pascal))
    g.removeDirectory (g.directoryOf names removable)
    notify (.schemaKept g.settings.dbFolder)

end Generator

end Groundwork
