import Groundwork.Naming.ModelNames
import Groundwork.Dialect
import Groundwork.Options

/-!
# Parts of server code

What server actions and request handlers have in common: where the database and its tables are
imported from, and the texts that depend on the dialect and on the options.
-/

namespace Groundwork.Route

open Text (code)

/-- What generated server code depends on beside the model's names. -/
structure Surroundings where
  /-- The module that exports the database. -/
  dbModule : Text
  /-- The module that exports the tables. -/
  schemaModule : Text
  dialect : Dialect
  options : Options
  deriving DecidableEq, Repr

namespace Surroundings

/-- An insertion can return the new row, which MySQL cannot do. -/
def returnsRows (s : Surroundings) : Bool := s.dialect ≠ .mysql

/-- The type of primary keys. -/
def keyType (s : Surroundings) : Text := if s.options.uuid then "string" else "number"

/-- The column by which rows are sorted, the newest first. -/
def orderColumn (s : Surroundings) : Text := if s.options.noTimestamps then "id" else "createdAt"

/-- The columns that the caller does not give, as a union of literal types. -/
def generatedColumns (s : Surroundings) : Text :=
  if s.options.noTimestamps then "\"id\"" else "\"id\" | \"createdAt\" | \"updatedAt\""

/-- The values of an update. -/
def updateValues (s : Surroundings) : Text :=
  if s.options.noTimestamps then "data" else code "⟦ ...data, updatedAt: new Date() ⟧"

/-- The imports of the database and of a model's table. -/
def imports (s : Surroundings) (names : ModelNames) : List Text := [
  code "import ⟦ db ⟧ from \"" ++ s.dbModule ++ "\";",
  code "import ⟦ " ++ names.camelPlural ++ code " ⟧ from \"" ++ s.schemaModule ++ "\";"]

end Surroundings

end Groundwork.Route
