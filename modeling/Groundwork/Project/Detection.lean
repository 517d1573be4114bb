import Groundwork.Disk.Basic
import Groundwork.Json.Comment
import Groundwork.Json.Document
import Groundwork.Project.Settings
import Groundwork.Schema.TableBlock
import Groundwork.Yaml.Document

/-!
# Detection of settings

The settings of a project are read off its directory: the layout, the compiler's configuration, the
database tool's configuration and the installed packages. The settings file, if there is one, has
the last word.
-/

namespace Groundwork.Project

/-- The name of the settings file. -/
def settingsName : Text := "brizzle.yaml"

/-- The entries of a JSON file, comments allowed. A file that does not exist, is no JSON or is no
    mapping has none, but one that cannot be read for its size is an error. -/
def jsonEntries (disk : Disk) (path : Path) : Except Failure (List (Value × Value)) :=
  if !disk.has path then .ok []
  else do
    match Json.parse (Json.strip (← disk.read path)) with
    | .ok (.mapping entries) => return entries
    | .error (.tooManyDigits count) => throw (.tooManyDigits count)
    | .error (.tooDeep isList) => throw (.nestedTooDeeply isList)
    | _ => return []

/-- The first key that ends in `/*`, without this ending. All keys have to be texts up to it. -/
def firstWildcard : List Value → Except Failure (Option Value)
  | [] => .ok none
  | .text key :: keys =>
    match Text.before? "/*" key with
    | some pathAlias => .ok (some (.text pathAlias))
    | none => firstWildcard keys
  | .brokenText key :: keys =>
    match Text.before? "/*" key with
    | some pathAlias => .ok (some (.brokenText pathAlias))
    | none => firstWildcard keys
  | _ => .error .unsuitableValue

/-- What going through a value yields: the keys of a mapping, the items of a list, the characters
    of a text. -/
def members : Value → Except Failure (List Value)
  | .mapping entries => .ok (entries.map Prod.fst)
  | .list items => .ok items
  | .text t | .brokenText t => .ok (t.map fun c => .text [c])
  | _ => .error .unusableValue

/-- The alias for the project's own modules, as it is written: the first path mapping of the
    compiler's configuration that covers a whole directory, and `@` otherwise. -/
def writtenAlias (disk : Disk) (root : Path) : Except Failure Value := do
  let entries ← jsonEntries disk (root.join "tsconfig.json")
  let paths ←
    match Value.lookup? entries "compilerOptions" with
    | none => pure .null
    | some (.mapping options) => pure ((Value.lookup? options "paths").getD .null)
    | some _ => throw .unsuitableValue
  if paths.isHollow then return .text "@"
  else return (← firstWildcard (← members paths)).getD (.text "@")

/-- The alias for the project's own modules. -/
def detectAlias (disk : Disk) (root : Path) : Except Failure Text := do
  (Checked.text SettingName.pathAlias.key (← writtenAlias disk root)).orRefuse

/-- The configuration files of the database tool, in the order in which they are asked. -/
def toolConfigNames : List Text :=
  ["drizzle.config.ts", "drizzle.config.js", "drizzle.config.mjs"].map String.toList

/-- The words for dialects that the database tool accepts. -/
def toolDialect? (w : Text) : Option Dialect :=
  if w = "sqlite" || w = "turso" then some .sqlite
  else if w = "postgresql" || w = "postgres" || w = "pg" then some .postgresql
  else if w = "mysql" then some .mysql
  else none

/-- A dialect given at the front of a text, as a quoted word. -/
def dialectSettingAt? (s : Text) : Option Text := do
  let s ← Text.after? "dialect" s
  let s ← Text.after? ":" (Text.dropBlanks s)
  let s ← Schema.afterQuote? (Text.dropBlanks s)
  match Text.spanWord s with
  | ([], _) => none
  | (word, rest) =>
    let _ ← Schema.afterQuote? rest
    return word

/-- The dialect that a configuration of the database tool names. Only the first one named counts,
    in any letter case. -/
def configuredDialect? (config : Text) : Option Dialect := do
  let (_, word) ← Text.search (fun _ s => dialectSettingAt? s) none config
  toolDialect? (Text.lower word)

/-- The dialect of the first configuration file that names one. -/
def toolDialectOf (disk : Disk) (root : Path) : List Text → Except Failure (Option Dialect)
  | [] => .ok none
  | name :: names =>
    if !disk.has (root.join name) then toolDialectOf disk root names
    else do
      match configuredDialect? (← disk.read (root.join name)) with
      | some dialect => return some dialect
      | none => toolDialectOf disk root names

/-- Packages that connect to PostgreSQL. -/
def postgresqlPackages : List Text :=
  ["pg", "postgres", "@neondatabase/serverless", "@vercel/postgres"].map String.toList

/-- Packages that connect to MySQL. -/
def mysqlPackages : List Text := ["mysql2", "@planetscale/database"].map String.toList

/-- The entries under a key of the package file, which have to be a mapping if they are there. -/
def dependencies (entries : List (Value × Value)) (key : Text) :
    Except Failure (List (Value × Value)) :=
  match Value.lookup? entries key with
  | none => .ok []
  | some (.mapping packages) => .ok packages
  | some _ => .error .unusableValue

/-- The dialect that the installed packages speak of. -/
def packageDialect (disk : Disk) (root : Path) : Except Failure Dialect := do
  let entries ← jsonEntries disk (root.join "package.json")
  let packages := (← dependencies entries "dependencies")
    ++ (← dependencies entries "devDependencies")
  let isInstalled (name : Text) : Bool := (Value.lookup? packages name).isSome
  if postgresqlPackages.any isInstalled then return .postgresql
  else if mysqlPackages.any isInstalled then return .mysql
  else return .sqlite

/-- The dialect of the database tool's configuration, or else of the installed packages. -/
def detectDialect (disk : Disk) (root : Path) : Except Failure Dialect := do
  match ← toolDialectOf disk root toolConfigNames with
  | some dialect => return dialect
  | none => packageDialect disk root

/-- The settings that show without the settings file, save for the alias. -/
def conventions (disk : Disk) (root : Path) (dialect : Dialect) : Settings :=
  let useSrc := disk.isDirectory ((root.join "src").join "app")
  { root, useSrc, dialect
    appFolder := if useSrc then "src/app" else "app"
    dbFolder := if useSrc then "src/db" else "db" }

/-- The entries of a settings file's text, which has to be a mapping unless nothing is in it. -/
def settingsEntries (text : Text) : Except Failure (List (Value × Value)) := do
  match ← Yaml.parse text with
  | .mapping entries => return entries
  | value => if value.isHollow then return [] else throw .settingsNotMapping

/-- The value that a setting is given by the entries of the settings file, or else by the written
    alias. Of the two spellings of a key, the one in snake case counts first, and issues are located
    at the other. -/
def givenValue (entries : List (Value × Value)) (pathAlias : Value) (name : SettingName) :
    Option (Text × Value) :=
  match Value.lookupFirst? entries [name.otherKey, name.key] with
  | some (_, value) => some (name.key, value)
  | none => if name = .pathAlias then some (name.key, pathAlias) else none

/-- The settings of a project. -/
def detect (disk : Disk) (root : Path) : Except Failure Settings := do
  let pathAlias ← writtenAlias disk root
  let dialect ← detectDialect disk root
  let path := root.join settingsName
  let entries ← if disk.has path then settingsEntries (← disk.read path) else .ok []
  ((conventions disk root dialect).override (givenValue entries pathAlias)).orRefuse

/-- The disk with a settings file in the project's directory. One that is there already is kept
    unless the writing is forced. -/
def writeSettings (disk : Disk) (settings : Settings) (force : Bool) : Except Failure Disk :=
  let path := settings.root.join settingsName
  if disk.has path && !force then .error .settingsExist
  else disk.write path settings.toYaml

end Groundwork.Project
