import Groundwork.Field.Basic
import Groundwork.Text.Blank
import Groundwork.Text.Case

/-!
# Field tokens

A field is given as `name[?][:type[?][:modifier…]]`. A question mark makes the field nullable, the
modifier `unique` makes it unique, and the type `unique` is short for a unique string. An enum
lists its values and a reference names its target right after the type:

    status:enum:draft,published
    author:references:user:unique

`Token.check` says which tokens are well formed, `Field.ofToken` reads one, and `Field.ofTokens`
reads the fields of one model.
-/

namespace Groundwork

/-- Words that clash with SQL as column names: its keywords and its type names. -/
def sqlWords : List Text :=
  ["select", "from", "where", "insert", "update", "delete", "drop", "create", "alter", "index",
   "table", "column", "database", "schema", "and", "or", "not", "null", "true", "false", "order",
   "by", "group", "having", "limit", "offset", "join", "left", "right", "inner", "outer", "on",
   "as", "in", "between", "like", "is", "case", "when", "then", "else", "end", "exists",
   "distinct", "all", "any", "union", "intersect", "except", "primary", "foreign", "key",
   "references", "unique", "default", "check", "constraint",
   "int", "integer", "float", "double", "decimal", "numeric", "boolean", "bool", "text",
   "varchar", "char", "date", "time", "timestamp", "datetime"].map String.toList

/-- Names that no model may have. -/
def reservedModelNames : List Text :=
  ["model", "schema", "db", "database", "table"].map String.toList

/-- The name of the primary key, a column of every table. -/
def primaryKey : Text := "id"

/-- The names of the columns that hold the times of creation and of the last change. -/
def timestampNames : List Text := ["createdAt", "updatedAt"].map String.toList

/-- A letter of ASCII followed by letters and digits of ASCII; a line feed may end the name. The
    first letter satisfies `first`. -/
def isIdentifier (first : Char → Bool) (name : Text) : Bool :=
  match Text.dropEnding ['\n'] name with
  | [] => false
  | c :: s => c.isAlpha && first c && s.all Char.isAlphanum

/-- A name is fit for a model if it is an identifier and not reserved. -/
def checkModelName (name : Text) : Except Failure Unit :=
  if name.isEmpty then .error .modelNameMissing
  else if !isIdentifier (fun _ => true) name then .error (.modelNameInvalid name)
  else if reservedModelNames.contains (Text.lower name) then .error (.modelNameReserved name)
  else .ok ()

/-- A field token, taken apart at its colons. -/
structure Token where
  /-- The first part: the name, perhaps with a question mark. -/
  namePart : Text
  /-- The second part, or `string` if there is none or it is empty. -/
  typePart : Text
  /-- All parts from the third on. -/
  modifiers : List Text
  deriving DecidableEq, Repr

namespace Token

/-- A token's parts. -/
def ofText (token : Text) : Token :=
  match Text.split ':' token with
  | [] => ⟨[], "string", []⟩
  | [name] => ⟨name, "string", []⟩
  | name :: type :: modifiers => ⟨name, if type.isEmpty then "string" else type, modifiers⟩

/-- The field's name. -/
def name (t : Token) : Text := Text.dropEnding ['?'] t.namePart

/-- The word for the field's type. -/
def typeWord (t : Token) : Text := Text.dropEnding ['?'] t.typePart

/-- A question mark ends the name or the type. -/
def isNullable (t : Token) : Bool :=
  Text.endsWith ['?'] t.namePart || Text.endsWith ['?'] t.typePart

/-- The part after the type, empty if there is none. -/
def argument (t : Token) : Text := t.modifiers.headD []

/-- The values that the argument lists, without the blanks around them and without empty ones. -/
def choices (t : Token) : List Text :=
  ((Text.split ',' t.argument).map Text.trim).filter fun value => !value.isEmpty

/-- The words that may stand as a type. -/
def typeWords : List Text :=
  ["references", "enum", "unique"].map String.toList ++ FieldKind.plainWords

/-- The rule for names of fields. -/
def checkName (token : Text) (name : Text) : Except Failure Unit :=
  if name.isEmpty then .error (.fieldNameMissing token)
  else if !isIdentifier Char.isLower name then .error (.fieldNameInvalid name)
  else if sqlWords.contains (Text.lower name) then .error (.fieldNameReserved name)
  else if name = primaryKey then .error (.fieldNameTaken name)
  else .ok ()

/-- The rule for types and what they need. -/
def checkType (t : Token) : Except Failure Unit :=
  if !typeWords.contains t.typeWord then .error (.fieldKindUnknown t.typeWord)
  else if t.typeWord = ("enum" : Text) && (t.choices.isEmpty || t.argument = "unique") then
    .error (.tokenLacksChoices t.name)
  else if t.typeWord = ("references" : Text) && (t.argument.isEmpty || t.argument = "unique") then
    .error (.tokenLacksTarget t.name)
  else .ok ()

/-- A token is well formed if its name and its type are. -/
def check (token : Text) : Except Failure Unit := do
  let t := ofText token
  checkName token t.name
  checkType t

/-- The field that a token's parts describe. -/
def field (t : Token) : Except Failure Field :=
  let plain : Field := { name := t.name, nullable := t.isNullable }
  if t.typeWord = ("unique" : Text) then Field.complete { plain with unique := true }
  else match FieldKind.ofWord? t.typeWord with
    | none => .error (.fieldKindUnknown t.typeWord)
    | some .enum =>
      Field.complete
        { plain with
          kind := .enum
          unique := (t.modifiers.drop 1).contains "unique"
          isEnum := true
          choices := some t.choices }
    | some .references =>
      Field.complete
        { plain with
          kind := .references
          unique := (t.modifiers.drop 1).contains "unique"
          isReference := true
          target := some t.argument }
    | some kind => Field.complete { plain with kind, unique := t.modifiers.contains "unique" }

end Token

namespace Field

/-- The field that a well-formed token describes. -/
def ofToken (token : Text) : Except Failure Field := do
  Token.check token
  (Token.ofText token).field

/-- The next field of a model whose earlier fields have the names `earlier`. Timestamp columns may
    be defined only where the model does without the generated ones. -/
def ofTokenAfter (noTimestamps : Bool) (earlier : List Text) (token : Text) :
    Except Failure Field := do
  let f ← ofToken token
  if !noTimestamps && timestampNames.contains f.name then throw (.fieldNameTimestamp f.name)
  if earlier.contains f.name then throw (.fieldRepeated f.name)
  return f

/-- The fields after those named in `earlier`. -/
def ofTokensAfter (noTimestamps : Bool) (earlier : List Text) :
    List Text → Except Failure (List Field)
  | [] => .ok []
  | token :: tokens => do
    let f ← ofTokenAfter noTimestamps earlier token
    return f :: (← ofTokensAfter noTimestamps (f.name :: earlier) tokens)

/-- The fields of a model; no name occurs twice. -/
def ofTokens (tokens : List Text) (noTimestamps : Bool) : Except Failure (List Field) :=
  ofTokensAfter noTimestamps [] tokens

end Field

end Groundwork
