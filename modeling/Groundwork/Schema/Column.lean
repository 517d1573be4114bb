import Groundwork.Naming.ModelNames
import Groundwork.Field.Basic
import Groundwork.Options
import Groundwork.Schema.GeneratedColumn

/-!
# Columns

One line of a table for each field: the property's name, the call that builds the column, and the
calls that make it required or unique.
-/

namespace Groundwork.Schema

/-- Backslashes and double quotes are escaped, for use between double quotes. -/
def escaped (s : Text) : Text :=
  s.flatMap fun c => if c = '\\' || c = '"' then ['\\', c] else [c]

/-- The exported name of a field's enum, such as `postStatusEnum`. -/
def enumName (names : ModelNames) (f : Field) : Text :=
  names.camel ++ Naming.pascal f.name ++ "Enum"

/-- The values of an enum as string literals. -/
def choiceLiterals (f : Field) : Text :=
  List.intercalate ", " (f.choiceList.map fun value => "\"" ++ escaped value ++ "\"")

/-- The calls that make a column required and unique. -/
def modifiers (f : Field) : Text :=
  (if f.nullable then "" else ".notNull()") ++ (if f.unique then ".unique()" else "" : Text)

/-- The call that builds the column of an enum field. -/
def enumCall (names : ModelNames) (f : Field) (column : Text) : Dialect → Text
  | .postgresql => enumName names f ++ "(\"" ++ column ++ "\")"
  | .mysql => "mysqlEnum(\"" ++ column ++ "\", [" ++ choiceLiterals f ++ "])"
  | .sqlite =>
    "text(\"" ++ column ++ Text.code "\", ⟦ enum: [" ++ choiceLiterals f ++ Text.code "] ⟧)"

/-- The table that a reference points at, by the name that it is exported under. -/
def referencedTable (f : Field) : Text := Naming.camel (Naming.pluralise (f.target.getD []))

/-- The call that builds a field's column. -/
def columnCall (names : ModelNames) (f : Field) (dialect : Dialect) (options : Options) : Text :=
  let column := Naming.snake f.name
  if f.isEnum then enumCall names f column dialect
  else if f.isReference then
    (referenceType dialect options.uuid).call column ++ ".references(() => " ++ referencedTable f
      ++ ".id)"
  else (ColumnType.sized dialect f.kind).call column

/-- The line of a table that declares a field's column. -/
def columnLine (names : ModelNames) (f : Field) (dialect : Dialect) (options : Options) : Text :=
  "  " ++ f.name ++ ": " ++ columnCall names f dialect options ++ modifiers f ++ ","

end Groundwork.Schema
