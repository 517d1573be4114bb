import Groundwork.Data.Value
import Groundwork.Field.Basic
import Groundwork.Options

/-!
# Records from loose data

A record is filled from a mapping whose keys may be absent, unknown or hold values of the wrong
form. All issues are reported together, in the order of the record's components.
-/

namespace Groundwork

/-- A result, or everything that is wrong with the data for it. -/
def Checked (α : Type) := Except (List Issue) α

namespace Checked

/-- Apply a function; the issues of both sides are kept. -/
def ap {α β : Type} : Checked (α → β) → Checked α → Checked β
  | .ok f, .ok x => .ok (f x)
  | .ok _, .error issues => .error issues
  | .error issues, .ok _ => .error issues
  | .error first, .error second => .error (first ++ second)

instance : Applicative Checked where
  pure a := Except.ok a
  seq f x := ap f (x ())

/-- The result, or the failure that lists the issues. -/
def orRefuse {α : Type} : Checked α → Except Failure α
  | .ok a => .ok a
  | .error issues => .error (.refused issues)

/-- A converted value; an issue is located at its key. -/
def located {α : Type} (location : List Text) : Except IssueKind α → Checked α
  | .ok a => Except.ok a
  | .error kind => Except.error [⟨location, kind⟩]

/-- The component under the first of several keys that is present; absent, it has a default. -/
def component {α : Type} (entries : List (Value × Value)) (keys : List Text) (absent : α)
    (convert : Text → Value → Checked α) : Checked α :=
  match Value.lookupFirst? entries keys with
  | none => pure absent
  | some (key, value) => convert key value

/-- A truth value under a key. -/
def truth (key : Text) (value : Value) : Checked Bool := located [key] value.toTruth

/-- A text under a key. -/
def text (key : Text) (value : Value) : Checked Text := located [key] value.toText

/-- A text under a key, or null. -/
def optionalText (key : Text) : Value → Checked (Option Text)
  | .null => pure none
  | value => some <$> text key value

/-- The items of a list of texts, the first of them with the given index. -/
def textItems (key : Text) (index : Nat) : List Value → Checked (List Text)
  | [] => pure []
  | item :: items =>
    List.cons <$> located [key, Text.ofNat index] item.toText <*> textItems key (index + 1) items

/-- A list of texts under a key, or null. -/
def optionalTexts (key : Text) : Value → Checked (Option (List Text))
  | .null => pure none
  | .list items => some <$> textItems key 0 items
  | _ => Except.error [⟨[key], .notList⟩]

end Checked

namespace Options

/-- The options that a mapping sets. -/
def ofEntries (entries : List (Value × Value)) : Checked Options :=
  let switch (keys : List Text) := Checked.component entries keys false Checked.truth
  Options.mk <$> switch ["force"] <*> switch ["dryRun", "dry_run"] <*> switch ["uuid"]
    <*> switch ["noTimestamps", "no_timestamps"]

end Options

namespace Field

/-- The components of a field that a mapping gives. Only the name has to be present. -/
def componentsOfEntries (entries : List (Value × Value)) : Checked Field :=
  let switch (key : Text) := Checked.component entries [key] false Checked.truth
  let name : Checked Text :=
    match Value.lookup? entries "name" with
    | none => Except.error [⟨["name"], .missing⟩]
    | some value => Checked.text "name" value
  let kind := Checked.component entries ["type"] FieldKind.string fun key value =>
    Checked.located [key] (value.toListed FieldKind.ofWord?)
  Field.mk <$> name <*> kind <*> switch "nullable" <*> switch "unique" <*> switch "is_enum"
    <*> Checked.component entries ["enum_values"] none Checked.optionalTexts
    <*> switch "is_reference"
    <*> Checked.component entries ["reference_to"] none Checked.optionalText

/-- The field that a mapping gives. -/
def ofEntries (entries : List (Value × Value)) : Except Failure Field := do
  let f ← (componentsOfEntries entries).orRefuse
  f.complete

end Field

end Groundwork
