import Groundwork.Form.Widget

/-!
# Values of fields

The expression that reads a field from a submitted form, and the expression that shows a field of
a record.
-/

namespace Groundwork.Form

open Text (code)

/-- The expression that reads a field from `formData`. An empty optional value becomes null.
    Decimals stay text, which keeps all their digits. -/
def submitted (f : Field) (uuid : Bool) : Text :=
  let entry : Text := "formData.get(\"" ++ f.name ++ "\")"
  let asText : Text := entry ++ " as string"
  if f.kind.isBoolean then
    let isOn : Text := entry ++ " === \"on\""
    if f.nullable then isOn ++ " ? true : null" else isOn
  else
    let parsed : Text :=
      if f.kind.isInteger || (f.isReference && !uuid) then "parseInt(" ++ asText ++ ")"
      else if f.kind = .float then "parseFloat(" ++ asText ++ ")"
      else if f.kind.isMoment || f.kind = .date then "new Date(" ++ asText ++ ")"
      else if f.kind = .json then "JSON.parse(" ++ asText ++ ")"
      else asText
    if f.nullable then entry ++ " ? " ++ parsed ++ " : null" else parsed

/-- The expression that shows a field of the record `item`. -/
def shown (f : Field) (item : Text) : Text :=
  let value := recordValue f item
  if f.kind.isBoolean then code "⟦" ++ value ++ code " ? \"Yes\" : \"No\"⟧"
  else if f.kind = .date then code "⟦" ++ value ++ code "?.toLocaleDateString()⟧"
  else if f.kind.isMoment then code "⟦" ++ value ++ code "?.toLocaleString()⟧"
  else if f.kind = .json then code "⟦JSON.stringify(" ++ value ++ code ")⟧"
  else code "⟦" ++ value ++ code "⟧"

end Groundwork.Form
