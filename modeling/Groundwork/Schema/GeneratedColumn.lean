import Groundwork.Schema.ColumnType

/-!
# Generated columns

The columns that a table has without being asked: its primary key and the times of creation and of
the last change. A reference to another table has the type of that table's primary key.
-/

namespace Groundwork.Schema

/-- The primary key: counted up, or a UUID. -/
def keyColumn : Dialect → (uuid : Bool) → Text
  | .postgresql, true => "id: uuid(\"id\").primaryKey().defaultRandom()"
  | .mysql, true =>
    "id: " ++ (ColumnType.sized .mysql .uuid).call "id"
      ++ ".primaryKey().$defaultFn(() => crypto.randomUUID())"
  | .sqlite, true => "id: text(\"id\").primaryKey().$defaultFn(() => crypto.randomUUID())"
  | .postgresql, false => "id: serial(\"id\").primaryKey()"
  | .mysql, false => "id: int(\"id\").primaryKey().autoincrement()"
  | .sqlite, false => Text.code "id: integer(\"id\").primaryKey(⟦ autoIncrement: true ⟧)"

/-- The builder of the primary key. -/
def keyBuilder : Dialect → (uuid : Bool) → Text
  | .postgresql, true => "uuid"
  | .mysql, true => "varchar"
  | .sqlite, true => "text"
  | .postgresql, false => "serial"
  | .mysql, false => "int"
  | .sqlite, false => "integer"

/-- The type of a column that holds the key of another table's row. -/
def referenceType : Dialect → (uuid : Bool) → ColumnType
  | .postgresql, true => { builder := "uuid" }
  | .mysql, true => ColumnType.sized .mysql .uuid
  | .sqlite, true => { builder := "text" }
  | .mysql, false => { builder := "int" }
  | .postgresql, false | .sqlite, false => { builder := "integer" }

/-- The columns `createdAt` and `updatedAt`, the first line without its indentation. -/
def timestampColumns : Dialect → Text
  | .postgresql =>
    "createdAt: timestamp(\"created_at\")\n    .notNull()\n    .defaultNow(),\n"
      ++ "  updatedAt: timestamp(\"updated_at\")\n    .notNull()\n    .defaultNow()"
  | .mysql =>
    "createdAt: datetime(\"created_at\")\n    .notNull()\n    .$defaultFn(() => new Date()),\n"
      ++ "  updatedAt: datetime(\"updated_at\")\n    .notNull()\n    .$defaultFn(() => new Date())"
  | .sqlite =>
    Text.code "createdAt: integer(\"created_at\", ⟦ mode: \"timestamp\" ⟧)\n"
      ++ "    .notNull()\n    .$defaultFn(() => new Date()),\n"
      ++ Text.code "  updatedAt: integer(\"updated_at\", ⟦ mode: \"timestamp\" ⟧)\n"
      ++ "    .notNull()\n    .$defaultFn(() => new Date())"

/-- The builder of the timestamp columns. -/
def timestampBuilder : Dialect → Text
  | .postgresql => "timestamp"
  | .mysql => "datetime"
  | .sqlite => "integer"

end Groundwork.Schema
