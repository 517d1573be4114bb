import Groundwork.Data.Record
import Groundwork.Dialect
import Groundwork.Disk.Path
import Groundwork.Route.Part
import Groundwork.Yaml.Printer

/-!
# Project settings

Where generated files of a project go, how its modules are imported, and its dialect. All settings
but the project's directory can be given by a mapping, under two spellings of each key.
-/

namespace Groundwork

/-- The settings of a project. -/
structure Settings where
  /-- The project's directory. -/
  root : Path
  /-- Source files are kept apart from the project's other files. -/
  useSrc : Bool := false
  /-- What imports of the project's own modules begin with. -/
  pathAlias : Text := "@"
  appFolder : Text := "app"
  dbFolder : Text := "db"
  dialect : Dialect := .sqlite
  deriving DecidableEq, Repr

/-- A setting that a mapping may give. -/
inductive SettingName where
  | useSrc
  | pathAlias
  | appFolder
  | dbFolder
  | dialect
  deriving DecidableEq, Repr

namespace SettingName

/-- The key under which a setting is written. -/
def key : SettingName → Text
  | useSrc => "useSrc"
  | pathAlias => "alias"
  | appFolder => "appPath"
  | dbFolder => "dbPath"
  | dialect => "dialect"

/-- The other spelling of a setting's key; the same one for keys of one word. -/
def otherKey : SettingName → Text
  | useSrc => "use_src"
  | pathAlias => "alias"
  | appFolder => "app_path"
  | dbFolder => "db_path"
  | dialect => "dialect"

end SettingName

namespace Settings

/-- The settings with the given values in place of their own. A value comes with the key that an
    issue with it is located at. -/
def override (base : Settings) (given : SettingName → Option (Text × Value)) :
    Checked Settings :=
  let setting {α : Type} (name : SettingName) (own : α) (convert : Text → Value → Checked α) :
      Checked α :=
    match given name with
    | none => pure own
    | some (key, value) => convert key value
  Settings.mk base.root
    <$> setting .useSrc base.useSrc Checked.truth
    <*> setting .pathAlias base.pathAlias Checked.text
    <*> setting .appFolder base.appFolder Checked.text
    <*> setting .dbFolder base.dbFolder Checked.text
    <*> setting .dialect base.dialect fun key value =>
      Checked.located [key] (value.toListed Dialect.ofWord?)

/-- The settings that a mapping gives for a project; the rest are the usual ones. The written
    spelling of a key counts before the other one. -/
def ofEntries (root : Path) (entries : List (Value × Value)) : Checked Settings :=
  override { root } fun name => Value.lookupFirst? entries [name.key, name.otherKey]

/-- The directory of pages and routes. -/
def appDirectory (s : Settings) : Path := s.root.join s.appFolder

/-- The directory of the database's files. -/
def dbDirectory (s : Settings) : Path := s.root.join s.dbFolder

/-- The schema file. -/
def schemaFile (s : Settings) : Path := s.dbDirectory.join "schema.ts"

/-- The module of the database; imports leave out the directory `src`. -/
def dbModule (s : Settings) : Text :=
  s.pathAlias ++ "/" ++ ((Text.after? "src/" s.dbFolder).getD s.dbFolder)

/-- The module of the schema. -/
def schemaModule (s : Settings) : Text := s.dbModule ++ "/schema"

/-- The settings as the text of a settings file. -/
def toYaml (s : Settings) : Text :=
  Yaml.truthEntry SettingName.useSrc.key s.useSrc
    ++ Yaml.textEntry SettingName.pathAlias.key s.pathAlias
    ++ Yaml.textEntry SettingName.appFolder.key s.appFolder
    ++ Yaml.textEntry SettingName.dbFolder.key s.dbFolder
    ++ Yaml.textEntry SettingName.dialect.key s.dialect.word

/-- What server code of the project depends on. -/
def surroundings (s : Settings) (options : Options) : Route.Surroundings :=
  ⟨s.dbModule, s.schemaModule, s.dialect, options⟩

end Settings

end Groundwork
