import Groundwork.Page.Index

/-!
# The page of one record

All fields of a record, and the time of its creation if the table has it.
-/

namespace Groundwork.Page

open Text (code)

/-- One line of the record, a term and its description. -/
def entry (term description : Text) : Text := Form.block [
  "        <div className=\"py-3\">",
  "          <dt className=\"text-sm text-gray-500\">" ++ term ++ "</dt>",
  "          <dd className=\"mt-1 text-gray-900\">" ++ description ++ "</dd>",
  "        </div>"]

/-- The lines of the record. -/
def entries (names : ModelNames) (fields : List Field) (options : Options) : Text :=
  Form.block (fields.map (fun f => entry (Naming.pascal f.name) (Form.shown f names.camel))
    ++ (if options.noTimestamps then []
      else [entry "Created At" (code "⟦" ++ names.camel ++ code ".createdAt.toLocaleString()⟧")]))

/-- The page of one record. -/
def detail (names : ModelNames) (fields : List Field) (options : Options) : Text := Text.lines ([
  code "import ⟦ notFound ⟧ from \"next/navigation\";",
  "import Link from \"next/link\";",
  code "import ⟦ get" ++ names.pascal ++ code " ⟧ from \"../actions\";",
  "",
  "export default async function " ++ names.pascal ++ code "Page(⟦"]
  ++ recordParameters
  ++ lookup names options
  ++ requireRecord names
  ++ [
  code "  return (",
  "    <div className=\"mx-auto max-w-xl px-6 py-12\">",
  "      <div className=\"mb-8 flex items-center justify-between\">",
  "        <h1 className=\"text-2xl font-semibold text-gray-900\">" ++ names.pascal ++ "</h1>",
  "        <div className=\"flex gap-3\">",
  "          <Link",
  code "            href=⟦`" ++ recordPath names ++ code "/edit`⟧",
  "            className=\"" ++ primaryButton ++ "\"",
  "          >",
  "            Edit",
  "          </Link>",
  "          <Link",
  "            href=\"/" ++ names.kebabPlural ++ "\"",
  "            className=\"" ++ secondaryButton ++ "\"",
  "          >",
  "            Back",
  "          </Link>",
  "        </div>",
  "      </div>",
  "",
  "      <dl className=\"divide-y divide-gray-100\">",
  entries names fields options,
  "      </dl>",
  "    </div>",
  "  );",
  code "⟧"])

end Groundwork.Page
