import Groundwork.Text.Basic

/-!
# Database dialects

The three dialects of SQL that a schema may be written for, with the module that provides the
builders of each and the builders' names.
-/

namespace Groundwork

/-- A dialect of SQL. -/
inductive Dialect where
  | sqlite
  | postgresql
  | mysql
  deriving DecidableEq, Repr

namespace Dialect

/-- The word for a dialect. -/
def word : Dialect → Text
  | sqlite => "sqlite"
  | postgresql => "postgresql"
  | mysql => "mysql"

/-- The dialect that a word stands for. -/
def ofWord? (w : Text) : Option Dialect := [sqlite, postgresql, mysql].find? fun d => d.word = w

/-- The module that provides the dialect's builders. -/
def module : Dialect → Text
  | sqlite => "drizzle-orm/sqlite-core"
  | postgresql => "drizzle-orm/pg-core"
  | mysql => "drizzle-orm/mysql-core"

/-- The builder of tables. -/
def tableBuilder : Dialect → Text
  | sqlite => "sqliteTable"
  | postgresql => "pgTable"
  | mysql => "mysqlTable"

/-- The builder of enums; in SQLite an enum is a text column. -/
def enumBuilder? : Dialect → Option Text
  | sqlite => none
  | postgresql => some "pgEnum"
  | mysql => some "mysqlEnum"

end Dialect

end Groundwork
