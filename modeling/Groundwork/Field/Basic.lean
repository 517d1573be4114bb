import Groundwork.Failure

/-!
# Fields

One column of a model. The kind decides how a field is shown in forms and which column type it
takes; the two marks `isEnum` and `isReference` decide how its column is written. Fields read from
tokens set the marks exactly for the kinds `enum` and `references`; fields given as records may
set them freely.
-/

namespace Groundwork

/-- A field of a model. -/
structure Field where
  name : Text
  kind : FieldKind := .string
  nullable : Bool := false
  unique : Bool := false
  /-- The column takes one of `choices`. -/
  isEnum : Bool := false
  choices : Option (List Text) := none
  /-- The column holds the key of a row of `target`'s table. -/
  isReference : Bool := false
  target : Option Text := none
  deriving DecidableEq, Repr

namespace Field

/-- The values that an enum field may take; none if none are given. -/
def choiceList (f : Field) : List Text := f.choices.getD []

/-- The field itself, if it has what its kind needs: an enum has values, a reference a target. -/
def complete (f : Field) : Except Failure Field :=
  if f.kind = .enum && f.choiceList.isEmpty then .error (.fieldLacksChoices f.name)
  else if f.kind = .references && (f.target.getD []).isEmpty then
    .error (.fieldLacksTarget f.name)
  else .ok f

end Field

end Groundwork
