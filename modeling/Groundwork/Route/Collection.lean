import Groundwork.Route.Part

/-!
# The route of all rows

Request handlers that list a model's rows and create a row.
-/

namespace Groundwork.Route

open Text (code)

/-- The lines that insert a row and read it back. -/
def insertRow (s : Surroundings) (names : ModelNames) : List Text :=
  if s.returnsRows then
    [code "  const result = await db.insert(" ++ names.camelPlural ++ ").values(data).returning();"]
  else
    [code "  const [⟦ id ⟧] = await db.insert(" ++ names.camelPlural
      ++ ").values(data).$returningId();",
     "  const result = await db.select().from(" ++ names.camelPlural ++ ").where(eq("
      ++ names.camelPlural ++ ".id, id)).limit(1);"]

/-- The module of the handlers for all rows. -/
def collection (s : Surroundings) (names : ModelNames) : Text := Text.lines (
  [code "import ⟦ NextResponse ⟧ from \"next/server\";"]
  ++ s.imports names
  ++ [
  code "import ⟦ desc" ++ (if s.returnsRows then "" else ", eq" : Text)
    ++ code " ⟧ from \"drizzle-orm\";",
  "",
  code "export async function GET() ⟦",
  "  const rows = await db.select().from(" ++ names.camelPlural ++ ").orderBy(desc("
    ++ names.camelPlural ++ "." ++ s.orderColumn ++ "));",
  "",
  "  return NextResponse.json(rows);",
  code "⟧",
  "",
  code "export async function POST(request: Request) ⟦",
  "  const data = await request.json();"]
  ++ insertRow s names
  ++ [
  code "",
  code "  return NextResponse.json(result[0], ⟦ status: 201 ⟧);",
  code "⟧"])

end Groundwork.Route
