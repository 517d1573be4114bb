import Groundwork.Schema.Definition
import Groundwork.Text.Blank

/-!
# Imports of a schema file

A schema file takes the builders that it calls from the library of its dialect in one statement,
such as `import ⟦ sqliteTable, text ⟧ from "drizzle-orm/sqlite-core";`, where `⟦` and `⟧` stand for
braces. `requiredImports` lists what the definitions of a model call,
and `mergeImports` adds symbols to the statement of a file that may have been edited by hand.
-/

namespace Groundwork.Schema

/-- The builders that the definitions of a model call, each once, in the order of first use. -/
def requiredImports (fields : List Field) (dialect : Dialect) (options : Options) : List Text :=
  let hasEnums := fields.any Field.isEnum
  let ofField (f : Field) : List Text :=
    if f.isEnum then []
    else if f.isReference then [(referenceType dialect options.uuid).builder]
    else [(ColumnType.ofKind dialect f.kind).builder]
  ([dialect.tableBuilder, keyBuilder dialect options.uuid]
    ++ (if options.noTimestamps then [] else [timestampBuilder dialect])
    ++ (if hasEnums then dialect.enumBuilder?.toList else [])
    ++ fields.flatMap ofField
    ++ (if hasEnums && dialect = .sqlite then [("text" : Text)] else [])).eraseDups

/-- The statement that imports symbols from a dialect's module. -/
def importStatement (symbols : List Text) (dialect : Dialect) : Text :=
  Text.code "import ⟦ " ++ List.intercalate ", " symbols ++ Text.code " ⟧ from \"" ++ dialect.module
    ++ "\";"

/-- A quotation mark of source text. -/
def isQuote (c : Char) : Bool := c = '"' || c = '\''

/-- What follows a quotation mark. -/
def afterQuote? : Text → Option Text
  | [] => none
  | c :: s => if isQuote c then some s else none

/-- The text between the braces at the front, which is not empty, and what follows them. -/
def braced? (s : Text) : Option (Text × Text) :=
  match Text.after? ['\x7b'] s with
  | none => none
  | some inside =>
    match inside.span (· ≠ '\x7d') with
    | ([], _) => none
    | (_, []) => none
    | (symbols, _ :: rest) => some (symbols, rest)

/-- What follows a quoted name of a module of the `drizzle-orm` package. -/
def afterModule? (s : Text) : Option Text := do
  let s ← afterQuote? s
  let s ← Text.after? "drizzle-orm/" s
  match s.span fun c => !isQuote c with
  | ([], _) => none
  | (_, rest) => afterQuote? rest

/-- An import statement at the front of the text: the text between its braces and what follows
    the statement. -/
def importAt? (s : Text) : Option (Text × Text) := do
  let s ← Text.after? "import" s
  let (symbols, s) ← braced? (Text.dropBlanks s)
  let s ← Text.after? "from" (Text.dropBlanks s)
  let s ← afterModule? (Text.dropBlanks s)
  return (symbols, Text.dropOne ';' s)

/-- The first import statement of a file. -/
structure ImportSite where
  /-- The text before the statement. -/
  front : Text
  /-- The text between its braces. -/
  inside : Text
  /-- The text after the statement. -/
  back : Text
  deriving DecidableEq, Repr

/-- The first import statement of a text. -/
def ImportSite.find? (content : Text) : Option ImportSite :=
  (Text.search (fun _ s => importAt? s) none content).map fun (front, inside, back) =>
    ⟨front, inside, back⟩

/-- The symbols listed between the braces. -/
def ImportSite.symbols (site : ImportSite) : List Text :=
  ((Text.split ',' site.inside).map Text.trim).filter fun symbol => !symbol.isEmpty

/-- The symbols that a file imports from the `drizzle-orm` package. -/
def importedSymbols (content : Text) : List Text :=
  match ImportSite.find? content with
  | none => []
  | some site => site.symbols

/-- The content with the symbols added to its import statement, or with a statement of its own in
    front if it has none. Symbols that are imported already are not repeated. -/
def mergeImports (content : Text) (symbols : List Text) (dialect : Dialect) : Text :=
  let statement := importStatement (importedSymbols content ++ symbols).eraseDups dialect
  match ImportSite.find? content with
  | none => statement ++ "\n" ++ content
  | some site => site.front ++ statement ++ site.back

end Groundwork.Schema
