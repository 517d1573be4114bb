import Groundwork.Schema.Column

/-!
# Definitions

What a schema file declares for one model: its enums, which only PostgreSQL exports on their own,
and its table.
-/

namespace Groundwork.Schema

/-- The export of a field's enum. -/
def enumExport (names : ModelNames) (f : Field) : Text :=
  "export const " ++ enumName names f ++ " = pgEnum(\"" ++ names.snake ++ "_" ++ Naming.snake f.name
    ++ "\", [" ++ choiceLiterals f ++ "]);"

/-- The exports of a model's enums. -/
def enumExports (names : ModelNames) (fields : List Field) : Dialect → List Text
  | .postgresql =>
    (fields.filter fun f => f.isEnum && !f.choiceList.isEmpty).map (enumExport names)
  | .sqlite | .mysql => []

/-- The lines between the braces of a table. -/
def tableLines (names : ModelNames) (fields : List Field) (dialect : Dialect)
    (options : Options) : List Text :=
  ["  " ++ keyColumn dialect options.uuid ++ ","]
    ++ fields.map (fun f => columnLine names f dialect options)
    ++ (if options.noTimestamps then [] else ["  " ++ timestampColumns dialect ++ ","])

/-- The export of a model's table. -/
def tableExport (names : ModelNames) (fields : List Field) (dialect : Dialect)
    (options : Options) : Text :=
  "export const " ++ names.camelPlural ++ " = " ++ dialect.tableBuilder ++ "(\"" ++ names.table
    ++ Text.code "\", ⟦\n" ++ List.intercalate "\n" (tableLines names fields dialect options)
    ++ Text.code "\n⟧);"

/-- All that a schema file declares for a model, with an empty line between two exports. -/
def definitions (names : ModelNames) (fields : List Field) (dialect : Dialect)
    (options : Options) : Text :=
  List.intercalate "\n\n"
    (enumExports names fields dialect ++ [tableExport names fields dialect options])

end Groundwork.Schema
