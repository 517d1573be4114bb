import Groundwork.Route.Part

/-!
# The route of one row

Request handlers that read, update and delete the row with a given key.
-/

namespace Groundwork.Route

open Text (code)

/-- The function that reads a key from the request's path. -/
def parseKey (s : Surroundings) : List Text :=
  [code "function parseId(id: string) ⟦"]
  ++ (if s.options.uuid then [code "  return id;"]
    else [
      code "  const numericId = Number(id);",
      "",
      "  return Number.isNaN(numericId) ? null : numericId;"])
  ++ [code "⟧"]

/-- The lines of a handler that bring the key into scope. -/
def requireKey : List Text := [
  "  const id = parseId((await params).id);",
  code "  if (id === null) ⟦",
  "    return notFound();",
  code "  ⟧",
  ""]

/-- The lines of a handler that read the row and answer with it. -/
def answerRow (names : ModelNames) : List Text := [
  "  const " ++ names.camel ++ " = await find" ++ names.pascal ++ "(id);",
  "  if (!" ++ names.camel ++ code ") ⟦",
  "    return notFound();",
  code "  ⟧",
  "",
  "  return NextResponse.json(" ++ names.camel ++ ");",
  code "⟧",
  ""]

/-- The module of the handlers for one row. -/
def member (s : Surroundings) (names : ModelNames) : Text := Text.lines (
  [code "import ⟦ NextResponse ⟧ from \"next/server\";"]
  ++ s.imports names
  ++ [
  code "import ⟦ eq ⟧ from \"drizzle-orm\";",
  "",
  code "type RouteContext = ⟦ params: Promise<⟦ id: string ⟧> ⟧;",
  ""]
  ++ parseKey s
  ++ [
  code "",
  code "function notFound() ⟦",
  code "  return NextResponse.json(⟦ error: \"" ++ names.pascal
    ++ code " not found\" ⟧, ⟦ status: 404 ⟧);",
  code "⟧",
  "",
  "async function find" ++ names.pascal ++ "(id: " ++ s.keyType ++ code ") ⟦",
  "  const result = await db.select().from(" ++ names.camelPlural ++ ").where(eq("
    ++ names.camelPlural ++ ".id, id)).limit(1);",
  "",
  "  return result[0] ?? null;",
  code "⟧",
  "",
  code "export async function GET(_request: Request, ⟦ params ⟧: RouteContext) ⟦"]
  ++ requireKey
  ++ answerRow names
  ++ [code "export async function PATCH(request: Request, ⟦ params ⟧: RouteContext) ⟦"]
  ++ requireKey
  ++ [
  code "  const data = await request.json();",
  "  await db",
  "    .update(" ++ names.camelPlural ++ ")",
  "    .set(" ++ s.updateValues ++ ")",
  "    .where(eq(" ++ names.camelPlural ++ ".id, id));",
  ""]
  ++ answerRow names
  ++ [code "export async function DELETE(_request: Request, ⟦ params ⟧: RouteContext) ⟦"]
  ++ requireKey
  ++ [
  code "  await db.delete(" ++ names.camelPlural ++ ").where(eq(" ++ names.camelPlural
    ++ ".id, id));",
  "",
  code "  return new NextResponse(null, ⟦ status: 204 ⟧);",
  code "⟧"])

end Groundwork.Route
