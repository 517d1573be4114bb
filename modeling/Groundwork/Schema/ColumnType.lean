import Groundwork.Dialect
import Groundwork.Field.Kind

/-!
# Column types

The builder that a dialect has for each kind of field, with the settings that the builder takes.
-/

namespace Groundwork.Schema

/-- A call that builds a column: the builder's name, and the object of settings that follows the
    column's name, if any. -/
structure ColumnType where
  builder : Text
  settings : Option Text := none
  deriving DecidableEq, Repr

namespace ColumnType

/-- The type without a column's name. -/
def render (t : ColumnType) : Text :=
  match t.settings with
  | none => t.builder
  | some settings => t.builder ++ "(" ++ settings ++ ")"

/-- The call for a column. -/
def call (t : ColumnType) (column : Text) : Text :=
  match t.settings with
  | none => t.builder ++ "(\"" ++ column ++ "\")"
  | some settings => t.builder ++ "(\"" ++ column ++ "\", " ++ settings ++ ")"

/-- The type for a kind of field in SQLite, which has one class of integers, keeps decimals as
    text, and stores truth values and times as integers. -/
def sqlite : FieldKind → ColumnType
  | .integer | .int | .bigint => { builder := "integer" }
  | .boolean | .bool =>
    { builder := "integer", settings := some (Text.code "⟦ mode: \"boolean\" ⟧") }
  | .datetime | .timestamp | .date =>
    { builder := "integer", settings := some (Text.code "⟦ mode: \"timestamp\" ⟧") }
  | .float => { builder := "real" }
  | _ => { builder := "text" }

/-- The type for a kind of field in PostgreSQL. -/
def postgresql : FieldKind → ColumnType
  | .integer | .int => { builder := "integer" }
  | .bigint => { builder := "bigint" }
  | .boolean | .bool => { builder := "boolean" }
  | .datetime | .timestamp => { builder := "timestamp" }
  | .date => { builder := "date" }
  | .float => { builder := "doublePrecision" }
  | .decimal => { builder := "numeric" }
  | .json => { builder := "jsonb" }
  | .uuid => { builder := "uuid" }
  | _ => { builder := "text" }

/-- The type for a kind of field in MySQL. -/
def mysql : FieldKind → ColumnType
  | .string | .uuid => { builder := "varchar" }
  | .integer | .int => { builder := "int" }
  | .bigint => { builder := "bigint" }
  | .boolean | .bool => { builder := "boolean" }
  | .datetime => { builder := "datetime" }
  | .timestamp => { builder := "timestamp" }
  | .date => { builder := "date" }
  | .float => { builder := "double" }
  | .decimal => { builder := "decimal" }
  | .json => { builder := "json" }
  | _ => { builder := "text" }

/-- The type for a kind of field. Kinds without a type of their own are kept as text. -/
def ofKind : Dialect → FieldKind → ColumnType
  | .sqlite => sqlite
  | .postgresql => postgresql
  | .mysql => mysql

/-- The settings of a column of at most `n` characters. -/
def lengthSettings (n : Nat) : Text := Text.code "⟦ length: " ++ Text.ofNat n ++ Text.code " ⟧"

/-- Characters of a UUID. -/
def uuidLength : Nat := 36

/-- Characters that a string column of MySQL takes. -/
def stringLength : Nat := 255

/-- The type as a column needs it: in MySQL a string has a length. -/
def sized (dialect : Dialect) (kind : FieldKind) : ColumnType :=
  match dialect, kind with
  | .mysql, .string => { mysql .string with settings := some (lengthSettings stringLength) }
  | .mysql, .uuid => { mysql .uuid with settings := some (lengthSettings uuidLength) }
  | _, _ => ofKind dialect kind

end ColumnType

end Groundwork.Schema
