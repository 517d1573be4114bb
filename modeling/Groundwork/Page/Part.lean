import Groundwork.Form.Value
import Groundwork.Options

/-!
# Parts of pages

What several pages of a model share: the looks of buttons, the lookup of the record that a page
is about, and the contents of forms.
-/

namespace Groundwork.Page

open Text (code)

/-- Style classes of the button for the main action. -/
def primaryButton : Text :=
  "rounded-lg bg-gray-900 px-4 py-2 text-sm font-medium text-white transition-colors "
    ++ "hover:bg-gray-800"

/-- Style classes of the other buttons. -/
def secondaryButton : Text :=
  "rounded-lg border border-gray-200 px-4 py-2 text-sm font-medium text-gray-600 "
    ++ "transition-colors hover:bg-gray-50"

/-- The lines that bring the record with the key `id` into scope. A key that is counted up has to
    be a number. -/
def lookup (names : ModelNames) (options : Options) : List Text :=
  if options.uuid then
    ["  const " ++ names.camel ++ " = await get" ++ names.pascal ++ "(id);"]
  else [
    "  const numericId = Number(id);",
    "",
    code "  if (isNaN(numericId)) ⟦",
    "    notFound();",
    code "  ⟧",
    "",
    "  const " ++ names.camel ++ " = await get" ++ names.pascal ++ "(numericId);"]

/-- The properties of the object that is read from a submitted form. -/
def submittedProperties (fields : List Field) (options : Options) : Text :=
  Form.block (fields.map fun f =>
    "      " ++ f.name ++ ": " ++ Form.submitted f options.uuid ++ ",")

/-- The controls of a form, with an empty line between two of them. -/
def controls (fields : List Field) (item? : Option Text) : Text :=
  List.intercalate "\n\n" (fields.map fun f => Form.widget f item?)

/-- The buttons below a form: one that submits it and one that leads back to the list. -/
def formButtons (names : ModelNames) (action : Text) : List Text := [
  "        <div className=\"flex gap-3 pt-4\">",
  "          <button",
  "            type=\"submit\"",
  "            className=\"" ++ primaryButton ++ "\"",
  "          >",
  "            " ++ action ++ " " ++ names.pascal,
  "          </button>",
  "          <Link",
  "            href=\"/" ++ names.kebabPlural ++ "\"",
  "            className=\"" ++ secondaryButton ++ "\"",
  "          >",
  "            Cancel",
  "          </Link>",
  "        </div>",
  "      </form>",
  "    </div>",
  "  );",
  code "⟧"]

/-- The parameters of a page that is about one record, up to its key. -/
def recordParameters : List Text := [
  "  params,",
  code "⟧: ⟦",
  code "  params: Promise<⟦ id: string ⟧>;",
  code "⟧) ⟦",
  code "  const ⟦ id ⟧ = await params;"]

/-- The lines that end a page whose record does not exist. -/
def requireRecord (names : ModelNames) : List Text := [
  "",
  "  if (!" ++ names.camel ++ code ") ⟦",
  "    notFound();",
  code "  ⟧",
  ""]

end Groundwork.Page
