import Groundwork.Page.Part

/-!
# The page for a new record

A form with a control for each field, whose submission creates a record.
-/

namespace Groundwork.Page

open Text (code)

/-- The page for a new record of a model. -/
def new (names : ModelNames) (fields : List Field) (options : Options) : Text := Text.lines ([
  code "import ⟦ redirect ⟧ from \"next/navigation\";",
  "import Link from \"next/link\";",
  code "import ⟦ create" ++ names.pascal ++ code " ⟧ from \"../actions\";",
  "",
  "export default function New" ++ names.pascal ++ code "Page() ⟦",
  code "  async function handleCreate(formData: FormData) ⟦",
  "    \"use server\";",
  "",
  "    await create" ++ names.pascal ++ code "(⟦",
  submittedProperties fields options,
  code "    ⟧);",
  "",
  "    redirect(\"/" ++ names.kebabPlural ++ "\");",
  code "  ⟧",
  "",
  "  return (",
  "    <div className=\"mx-auto max-w-xl px-6 py-12\">",
  "      <h1 className=\"mb-8 text-2xl font-semibold text-gray-900\">New " ++ names.pascal
    ++ "</h1>",
  "",
  code "      <form action=⟦handleCreate⟧ className=\"space-y-5\">",
  controls fields none,
  ""] ++ formButtons names "Create")

end Groundwork.Page
