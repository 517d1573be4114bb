import Groundwork.Field.Token
import Groundwork.Form.Value
import Groundwork.Generator.Command
import Groundwork.Page.Detail
import Groundwork.Page.Edit
import Groundwork.Page.Index
import Groundwork.Page.New
import Groundwork.Route.Actions
import Groundwork.Route.Collection
import Groundwork.Route.Member
import Groundwork.Schema.File

/-!
# Generating files for a model

The commands that write source files. `model` writes the schema, `actions` the server actions,
`pages` the pages, and `scaffold`, `resource` and `api` combine them. Names and tokens are checked
before anything is written, but files are written one after the other, so a disk fault may come
after the first of them.
-/

namespace Groundwork.Generator

open Command

/-- The path of a file in the directory of a model's pages. -/
def pagePath (g : Generator) (names : ModelNames) (parts : List Text) : Text :=
  List.intercalate "/" (g.settings.appFolder :: names.kebabPlural :: parts)

/-- The directory of a model's request handlers. -/
def apiPath (g : Generator) (names : ModelNames) : Text :=
  List.intercalate "/" [g.settings.appFolder, "api", names.kebabPlural]

/-- The path of the schema file. -/
def schemaPath (g : Generator) : Text := g.settings.dbFolder ++ "/schema.ts"

/-- The new contents of a schema file that exists. A model that it has is replaced only where this
    is forced. -/
def mergedSchema (g : Generator) (content : Text) (names : ModelNames) (fields : List Field) :
    Except Failure Text :=
  if Schema.hasTable content names.table then
    if g.options.force then Schema.replace content names fields g.settings.dialect g.options
    else .error (.modelExists names.pascal)
  else .ok (Schema.append content names fields g.settings.dialect g.options)

/-- Add a model to the schema file, or replace it there. -/
def model (g : Generator) (name : Text) (tokens : List Text) : Command Unit := do
  attempt (checkModelName name)
  let names := ModelNames.ofName name
  let fields ← attempt (Field.ofTokens tokens g.options.noTimestamps)
  let disk := (← get).disk
  attempt (disk.checkNames g.settings.schemaFile)
  if !disk.has g.settings.schemaFile then
    g.writeFile g.schemaPath (Schema.create names fields g.settings.dialect g.options) false
  else
    let content ← attempt (disk.read g.settings.schemaFile)
    g.writeFile g.schemaPath (← attempt (g.mergedSchema content names fields)) true

/-- Write the server actions of a model. -/
def actions (g : Generator) (name : Text) : Command Unit := do
  attempt (checkModelName name)
  let names := ModelNames.ofName name
  g.writeFile (g.pagePath names ["actions.ts"])
    (Route.actions (g.settings.surroundings g.options) names) false

/-- Write the pages of a model. -/
def pages (g : Generator) (names : ModelNames) (fields : List Field) : Command Unit := do
  g.writeFile (g.pagePath names ["page.tsx"]) (Page.index names fields) false
  g.writeFile (g.pagePath names ["new", "page.tsx"]) (Page.new names fields g.options) false
  g.writeFile (g.pagePath names ["[id]", "page.tsx"]) (Page.detail names fields g.options) false
  g.writeFile (g.pagePath names ["[id]", "edit", "page.tsx"]) (Page.edit names fields g.options)
    false

/-- The next step after every change of the schema. -/
def pushStep : Text := "Run 'pnpm db:push' to update the database"

/-- Check a name and tokens, and announce what is done with the model. -/
def announce (g : Generator) (doing name : Text) (tokens : List Text) :
    Command (ModelNames × List Field) := do
  attempt (checkModelName name)
  let names := ModelNames.ofName name
  let fields ← attempt (Field.ofTokens tokens g.options.noTimestamps)
  notify (.heading g.options.dryRun (doing ++ " " ++ names.pascal))
  return (names, fields)

/-- Write a model's schema, server actions and pages. -/
def scaffold (g : Generator) (name : Text) (tokens : List Text) : Command Unit := do
  let (names, fields) ← g.announce "Scaffolding" name tokens
  g.model names.singular tokens
  g.actions names.singular
  g.pages names fields
  notify (.nextSteps [pushStep, "Run 'pnpm dev' and visit /" ++ names.kebabPlural])

/-- Write a model's schema and server actions. -/
def resource (g : Generator) (name : Text) (tokens : List Text) : Command Unit := do
  let (names, _) ← g.announce "Generating resource" name tokens
  g.model names.singular tokens
  g.actions names.singular
  notify (.nextSteps [pushStep, "Import actions from '" ++ g.pagePath names ["actions"] ++ "'"])

/-- Write a model's schema and request handlers. -/
def api (g : Generator) (name : Text) (tokens : List Text) : Command Unit := do
  let (names, _) ← g.announce "Generating API" name tokens
  g.model names.singular tokens
  let surroundings := g.settings.surroundings g.options
  g.writeFile (g.apiPath names ++ "/route.ts") (Route.collection surroundings names) false
  g.writeFile (g.apiPath names ++ "/[id]/route.ts") (Route.member surroundings names) false
  notify (.nextSteps [pushStep, "API available at /api/" ++ names.kebabPlural])

end Groundwork.Generator
