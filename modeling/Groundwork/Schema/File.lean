import Groundwork.Schema.TableBlock

/-!
# Schema files

A schema file is created with one model, a model is appended to it, or a model that it has is
replaced in place. Text that does not belong to the model stays as it is, the import statement
apart.
-/

namespace Groundwork.Schema

/-- A schema file that declares one model. -/
def create (names : ModelNames) (fields : List Field) (dialect : Dialect)
    (options : Options) : Text :=
  importStatement (requiredImports fields dialect options) dialect ++ "\n\n"
    ++ definitions names fields dialect options ++ "\n"

/-- The file with a model added at its end. -/
def append (content : Text) (names : ModelNames) (fields : List Field) (dialect : Dialect)
    (options : Options) : Text :=
  let gap : Text := if Text.endsWith "\n" content then "\n" else "\n\n"
  mergeImports (content ++ gap ++ definitions names fields dialect options ++ "\n")
    (requiredImports fields dialect options) dialect

/-- The place of a table, which the file must have. -/
def locate (content table : Text) : Except Failure TableSite :=
  match TableSite.find? content table with
  | none => .error (.tableNotFound table)
  | some site => .ok site

/-- The content with the first block of the table replaced. -/
def replaceBlock (content table block : Text) : Text :=
  match TableSite.find? content table with
  | none => content
  | some site => site.front ++ block ++ site.back

/-- The content, which has the table at `site`, with another definition of the model. The exports
    of the enums that the old table called go with it. -/
def swap (content : Text) (site : TableSite) (names : ModelNames) (fields : List Field)
    (dialect : Dialect) (options : Options) : Text :=
  let withoutEnums := (enumCalls site.block).foldl dropEnumExport content
  mergeImports (replaceBlock withoutEnums names.table (definitions names fields dialect options))
    (requiredImports fields dialect options) dialect

/-- The file with its definition of a model replaced. -/
def replace (content : Text) (names : ModelNames) (fields : List Field) (dialect : Dialect)
    (options : Options) : Except Failure Text := do
  let site ← locate content names.table
  return swap content site names fields dialect options

end Groundwork.Schema
