import Groundwork.Page.Part

/-!
# The list page

All records of a model, each by its first field, with links to edit and a button to delete it.
-/

namespace Groundwork.Page

open Text (code)

/-- The path of a record's page, as a template literal. -/
def recordPath (names : ModelNames) : Text :=
  "/" ++ names.kebabPlural ++ code "/$⟦" ++ names.camel ++ code ".id⟧"

/-- What stands for a record in the list: its first field, or its key if it has none. -/
def recordLabel (names : ModelNames) : List Field → Text
  | [] => code "⟦" ++ names.camel ++ code ".id⟧"
  | f :: _ => Form.shown f names.camel

/-- The lines for one record of the list. -/
def listItem (names : ModelNames) (fields : List Field) : List Text := [
  "            <div",
  code "              key=⟦" ++ names.camel ++ code ".id⟧",
  "              className=\"flex items-center justify-between py-4\"",
  "            >",
  code "              <Link href=⟦`" ++ recordPath names
    ++ code "`⟧ className=\"font-medium text-gray-900 hover:text-gray-600\">",
  "                " ++ recordLabel names fields,
  "              </Link>",
  "              <div className=\"flex gap-4 text-sm\">",
  "                <Link",
  code "                  href=⟦`" ++ recordPath names ++ code "/edit`⟧",
  "                  className=\"text-gray-500 hover:text-gray-900\"",
  "                >",
  "                  Edit",
  "                </Link>",
  "                <form",
  code "                  action=⟦async () => ⟦",
  "                    \"use server\";",
  "                    await delete" ++ names.pascal ++ "(" ++ names.camel ++ ".id);",
  code "                  ⟧⟧",
  "                >",
  "                  <button type=\"submit\" className=\"text-gray-500 hover:text-red-600\">",
  "                    Delete",
  "                  </button>",
  "                </form>",
  "              </div>",
  "            </div>"]

/-- The list page of a model. -/
def index (names : ModelNames) (fields : List Field) : Text := Text.lines ([
  code "import Link from \"next/link\";",
  code "import ⟦ get" ++ names.pascalPlural ++ ", delete" ++ names.pascal
    ++ code " ⟧ from \"./actions\";",
  "",
  "export default async function " ++ names.pascalPlural ++ code "Page() ⟦",
  "  const " ++ names.camelPlural ++ " = await get" ++ names.pascalPlural ++ "();",
  "",
  "  return (",
  "    <div className=\"mx-auto max-w-3xl px-6 py-12\">",
  "      <div className=\"mb-10 flex items-center justify-between\">",
  "        <h1 className=\"text-2xl font-semibold text-gray-900\">" ++ names.pascalPlural
    ++ "</h1>",
  "        <Link",
  "          href=\"/" ++ names.kebabPlural ++ "/new\"",
  "          className=\"" ++ primaryButton ++ "\"",
  "        >",
  "          New " ++ names.pascal,
  "        </Link>",
  "      </div>",
  "",
  code "      ⟦" ++ names.camelPlural ++ ".length === 0 ? (",
  "        <p className=\"text-gray-500\">No " ++ names.plural ++ " yet.</p>",
  "      ) : (",
  "        <div className=\"divide-y divide-gray-100\">",
  code "          ⟦" ++ names.camelPlural ++ ".map((" ++ names.camel ++ ") => ("]
  ++ listItem names fields
  ++ [
  code "          ))⟧",
  "        </div>",
  code "      )⟧",
  "    </div>",
  "  );",
  code "⟧"])

end Groundwork.Page
