import Groundwork.Route.Part

/-!
# Server actions

The functions that pages call to list, read, create, update and delete the rows of a model's table.
-/

namespace Groundwork.Route

open Text (code)

/-- The call that makes cached pages of the model be rendered again. -/
def revalidate (names : ModelNames) : List Text := [
  code "  revalidatePath(\"/" ++ names.kebabPlural ++ "\");",
  ""]

/-- The action that creates a row. -/
def createAction (s : Surroundings) (names : ModelNames) : List Text :=
  [code "export async function create" ++ names.pascal ++ "(data: Omit<New" ++ names.pascal ++ ", "
    ++ s.generatedColumns ++ code ">) ⟦"]
  ++ (if s.returnsRows then
      [code "  const result = await db.insert(" ++ names.camelPlural
        ++ ").values(data).returning();", ""]
      ++ revalidate names
      ++ [code "  return result[0];"]
    else
      [code "  const [⟦ id ⟧] = await db.insert(" ++ names.camelPlural
        ++ ").values(data).$returningId();", ""]
      ++ revalidate names
      ++ [code "  return get" ++ names.pascal ++ "(id);"])
  ++ [code "⟧", ""]

/-- The action that updates a row. -/
def updateAction (s : Surroundings) (names : ModelNames) : List Text :=
  [code "export async function update" ++ names.pascal ++ "(",
   "  id: " ++ s.keyType ++ ",",
   "  data: Partial<Omit<New" ++ names.pascal ++ ", " ++ s.generatedColumns ++ ">>",
   code ") ⟦"]
  ++ (if s.returnsRows then
      [code "  const result = await db",
       "    .update(" ++ names.camelPlural ++ ")",
       "    .set(" ++ s.updateValues ++ ")",
       "    .where(eq(" ++ names.camelPlural ++ ".id, id))",
       "    .returning();",
       ""]
      ++ revalidate names
      ++ [code "  return result[0];"]
    else
      [code "  await db",
       "    .update(" ++ names.camelPlural ++ ")",
       "    .set(" ++ s.updateValues ++ ")",
       "    .where(eq(" ++ names.camelPlural ++ ".id, id));",
       ""]
      ++ revalidate names
      ++ [code "  return get" ++ names.pascal ++ "(id);"])
  ++ [code "⟧", ""]

/-- The module of a model's server actions. -/
def actions (s : Surroundings) (names : ModelNames) : Text := Text.lines (
  [code "\"use server\";", ""]
  ++ s.imports names
  ++ [
  code "import ⟦ eq, desc ⟧ from \"drizzle-orm\";",
  code "import ⟦ revalidatePath ⟧ from \"next/cache\";",
  "",
  "export type " ++ names.pascal ++ " = typeof " ++ names.camelPlural ++ ".$inferSelect;",
  "export type New" ++ names.pascal ++ " = typeof " ++ names.camelPlural ++ ".$inferInsert;",
  "",
  "export async function get" ++ names.pascalPlural ++ code "() ⟦",
  "  return db.select().from(" ++ names.camelPlural ++ ").orderBy(desc(" ++ names.camelPlural
    ++ "." ++ s.orderColumn ++ "));",
  code "⟧",
  "",
  "export async function get" ++ names.pascal ++ "(id: " ++ s.keyType ++ code ") ⟦",
  "  const result = await db",
  "    .select()",
  "    .from(" ++ names.camelPlural ++ ")",
  "    .where(eq(" ++ names.camelPlural ++ ".id, id))",
  "    .limit(1);",
  "",
  "  return result[0] ?? null;",
  code "⟧",
  ""]
  ++ createAction s names
  ++ updateAction s names
  ++ [
  code "export async function delete" ++ names.pascal ++ "(id: " ++ s.keyType ++ code ") ⟦",
  "  await db.delete(" ++ names.camelPlural ++ ").where(eq(" ++ names.camelPlural ++ ".id, id));",
  "",
  "  revalidatePath(\"/" ++ names.kebabPlural ++ "\");",
  code "⟧"])

end Groundwork.Route
