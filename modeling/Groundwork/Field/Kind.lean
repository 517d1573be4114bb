import Groundwork.Text.Basic

/-!
# Kinds of fields

What a field of a model holds. Several words may stand for one storage kind (`int` and
`integer`); they are kept apart because generated source and messages repeat the user's word.
-/

namespace Groundwork

/-- What a field holds. -/
inductive FieldKind where
  | string
  | text
  | integer
  | int
  | bigint
  | boolean
  | bool
  | datetime
  | timestamp
  | date
  | float
  | decimal
  | json
  | uuid
  /-- One of a fixed list of values. -/
  | enum
  /-- A row of another table. -/
  | references
  deriving DecidableEq, Repr

namespace FieldKind

/-- All kinds, in the order in which messages list them. -/
def all : List FieldKind :=
  [string, text, integer, int, bigint, boolean, bool, datetime, timestamp, date, float, decimal,
   json, uuid, enum, references]

/-- The word for a kind. -/
def word : FieldKind → Text
  | string => "string"
  | text => "text"
  | integer => "integer"
  | int => "int"
  | bigint => "bigint"
  | boolean => "boolean"
  | bool => "bool"
  | datetime => "datetime"
  | timestamp => "timestamp"
  | date => "date"
  | float => "float"
  | decimal => "decimal"
  | json => "json"
  | uuid => "uuid"
  | enum => "enum"
  | references => "references"

/-- The kind that a word stands for. -/
def ofWord? (w : Text) : Option FieldKind := all.find? fun kind => kind.word = w

/-- The kind needs nothing beside its word: it is neither `enum` nor `references`. -/
def isPlain (kind : FieldKind) : Bool := kind ≠ enum && kind ≠ references

/-- The words of the plain kinds. -/
def plainWords : List Text := (all.filter isPlain).map word

/-- Yes or no. -/
def isBoolean (kind : FieldKind) : Bool := kind = boolean || kind = bool

/-- A whole number. -/
def isInteger (kind : FieldKind) : Bool := kind = integer || kind = int || kind = bigint

/-- A day and a time of day. -/
def isMoment (kind : FieldKind) : Bool := kind = datetime || kind = timestamp

end FieldKind

end Groundwork
