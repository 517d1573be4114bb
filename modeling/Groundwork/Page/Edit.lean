import Groundwork.Page.Part

/-!
# The page that edits a record

A form with a control for each field, each starting with the record's value, whose submission
updates the record.
-/

namespace Groundwork.Page

open Text (code)

/-- The page that edits a record of a model. -/
def edit (names : ModelNames) (fields : List Field) (options : Options) : Text := Text.lines ([
  code "import ⟦ notFound, redirect ⟧ from \"next/navigation\";",
  "import Link from \"next/link\";",
  code "import ⟦ get" ++ names.pascal ++ ", update" ++ names.pascal
    ++ code " ⟧ from \"../../actions\";",
  "",
  "export default async function Edit" ++ names.pascal ++ code "Page(⟦"]
  ++ recordParameters
  ++ lookup names options
  ++ requireRecord names
  ++ [
  code "  async function handleUpdate(formData: FormData) ⟦",
  "    \"use server\";",
  "",
  "    await update" ++ names.pascal ++ "(" ++ (if options.uuid then "id" else "numericId" : Text)
    ++ code ", ⟦",
  submittedProperties fields options,
  code "    ⟧);",
  "",
  "    redirect(\"/" ++ names.kebabPlural ++ "\");",
  code "  ⟧",
  "",
  "  return (",
  "    <div className=\"mx-auto max-w-xl px-6 py-12\">",
  "      <h1 className=\"mb-8 text-2xl font-semibold text-gray-900\">Edit " ++ names.pascal
    ++ "</h1>",
  "",
  code "      <form action=⟦handleUpdate⟧ className=\"space-y-5\">",
  controls fields (some names.camel),
  ""] ++ formButtons names "Update")

end Groundwork.Page
