import Groundwork.Schema.Column

/-!
# Input widgets

The markup of one form control for each field. The kind of the field selects the control; on an
edit form the control starts with the record's value.
-/

namespace Groundwork.Form

open Text (code)

/-- Style classes of text inputs. -/
def inputClasses : Text :=
  "mt-1.5 block w-full rounded-lg border border-gray-200 px-3 py-2 text-gray-900 "
    ++ "placeholder:text-gray-400 focus:border-gray-400 focus:outline-none focus:ring-0"

/-- Style classes of selections. -/
def selectClasses : Text :=
  "mt-1.5 block w-full rounded-lg border border-gray-200 px-3 py-2 text-gray-900 "
    ++ "focus:border-gray-400 focus:outline-none focus:ring-0"

/-- Style classes of check boxes. -/
def checkboxClasses : Text :=
  "h-4 w-4 rounded border-gray-300 text-gray-900 focus:ring-0 focus:ring-offset-0"

/-- Lines without a line feed after the last one. -/
def block (lines : List Text) : Text := List.intercalate "\n" lines

/-- The label above a control, which says when the value is optional. -/
def label (f : Field) : Text :=
  let optional : Text :=
    if f.nullable then " <span className=\"text-gray-400\">(optional)</span>" else ""
  block [
    "          <label htmlFor=\"" ++ f.name
      ++ "\" className=\"block text-sm font-medium text-gray-700\">",
    "            " ++ Naming.pascal f.name ++ optional,
    "          </label>"]

/-- The attribute that makes a control required. -/
def required (f : Field) : Text := if f.nullable then "" else " required"

/-- The record's value of a field, where the record is the variable `item`. -/
def recordValue (f : Field) (item : Text) : Text := item ++ "." ++ f.name

/-- The attribute that holds the record's value. -/
def defaultValue (f : Field) (item : Text) : Text :=
  let value := recordValue f item
  if f.kind = .json then
    code " defaultValue=⟦JSON.stringify(" ++ value ++ code ", null, 2)⟧"
  else if f.nullable then code " defaultValue=⟦" ++ value ++ code " ?? \"\"⟧"
  else code " defaultValue=⟦" ++ value ++ code "⟧"

/-- The attribute that holds the record's value, on forms that have a record. -/
def startValue (f : Field) : (item? : Option Text) → Text
  | none => ""
  | some item => defaultValue f item

/-- An input of a type, with further attributes after the type and after the style. -/
def input (f : Field) (type : Text) (early late : Text) : Text :=
  block [
    "        <div>",
    label f,
    "          <input",
    "            type=\"" ++ type ++ "\"" ++ early,
    "            id=\"" ++ f.name ++ "\"",
    "            name=\"" ++ f.name ++ "\"",
    "            className=\"" ++ inputClasses ++ "\"" ++ late ++ required f,
    "          />",
    "        </div>"]

/-- A text input. -/
def textInput (f : Field) (item? : Option Text) : Text :=
  input f "text" "" (startValue f item?)

/-- A number input; `step` is the distance of two accepted numbers, one by default. -/
def numberInput (f : Field) (item? : Option Text) (step : Option Text) : Text :=
  let early : Text :=
    match step with
    | none => ""
    | some step => "\n            step=\"" ++ step ++ "\""
  input f "number" early (startValue f item?)

/-- A date input. Its start value is the date of the record's value, as far as `part` cuts it. -/
def dateInput (f : Field) (item? : Option Text) (type part : Text) : Text :=
  let start : Text :=
    match item? with
    | none => ""
    | some item =>
      code " defaultValue=⟦" ++ recordValue f item ++ "?.toISOString()." ++ part ++ code "⟧"
  input f type "" start

/-- An input of several lines. -/
def textArea (f : Field) (item? : Option Text) : Text :=
  let isJson := f.kind = .json
  let rows : Text := if isJson then "6" else "4"
  let placeholder : Text := if isJson then code " placeholder=\"⟦⟧\"" else ""
  block [
    "        <div>",
    label f,
    "          <textarea",
    "            id=\"" ++ f.name ++ "\"",
    "            name=\"" ++ f.name ++ "\"",
    code "            rows=⟦" ++ rows ++ code "⟧",
    "            className=\"" ++ inputClasses ++ " resize-none\"" ++ startValue f item?
      ++ placeholder ++ required f,
    "          />",
    "        </div>"]

/-- A check box, with its label beside it. -/
def checkbox (f : Field) (item? : Option Text) : Text :=
  let start : Text :=
    match item? with
    | none => ""
    | some item =>
      let fallback : Text := if f.nullable then " ?? false" else ""
      code " defaultChecked=⟦" ++ recordValue f item ++ fallback ++ code "⟧"
  block [
    "        <div className=\"flex items-center gap-2\">",
    "          <input",
    "            type=\"checkbox\"",
    "            id=\"" ++ f.name ++ "\"",
    "            name=\"" ++ f.name ++ "\"",
    "            className=\"" ++ checkboxClasses ++ "\"" ++ start,
    "          />",
    "          <label htmlFor=\"" ++ f.name
      ++ "\" className=\"text-sm font-medium text-gray-700\">",
    "            " ++ Naming.pascal f.name,
    "          </label>",
    "        </div>"]

/-- One value of a selection. -/
def choice (value : Text) : Text :=
  "            <option value=\"" ++ Schema.escaped value ++ "\">" ++ Naming.pascal value
    ++ "</option>"

/-- A selection of one of the field's values, or of none if the field is nullable. -/
def selection (f : Field) (item? : Option Text) : Text :=
  let emptyChoice : Text :=
    if f.nullable then "\n            <option value=\"\">None</option>" else ""
  block [
    "        <div>",
    label f,
    "          <select",
    "            id=\"" ++ f.name ++ "\"",
    "            name=\"" ++ f.name ++ "\"",
    "            className=\"" ++ selectClasses ++ "\"" ++ startValue f item? ++ required f,
    "          >" ++ emptyChoice,
    block (f.choiceList.map choice),
    "          </select>",
    "        </div>"]

/-- The control for a field. With a record it starts with the record's value. -/
def widget (f : Field) (item? : Option Text) : Text :=
  match f.kind with
  | .text | .json => textArea f item?
  | .boolean | .bool => checkbox f item?
  | .integer | .int | .bigint => numberInput f item? none
  | .float => numberInput f item? (some "any")
  | .decimal => numberInput f item? (some "0.01")
  | .date => dateInput f item? "date" "split(\"T\")[0]"
  | .datetime | .timestamp => dateInput f item? "datetime-local" "slice(0, 16)"
  | .string | .uuid | .enum | .references =>
    if f.isEnum && !f.choiceList.isEmpty then selection f item? else textInput f item?

end Groundwork.Form
