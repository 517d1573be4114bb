import Groundwork.Proofs.Route.Columns
import Groundwork.Route.Member

/-!
# Names bound in request handlers

A handler for one row binds the row under the model's name, next to names of its own. They are read
from the text, function by function (`Scope.ofLines`): the names in the list of parameters, and the
constants that the body declares. A handler binds each name once and no reserved word exactly if the
model's name is none of the handler's own names and not reserved (`wellBound_member_iff`).
-/

namespace Groundwork

namespace Scope

open Text

/-! ## Readers -/

/-- A word as the only name, if there is one. -/
def named (word : Text) : List Text := if word.isEmpty then [] else [word]

/-- The brackets that open and those that close a list of names. -/
def openingBrackets : Text := ['(', '[', '<', '\x7b']

def closingBrackets : Text := [')', ']', '>', '\x7d']

/-- The names that parameters or the left side of a declaration bind, up to the bracket that closes
    them. `depth` counts the brackets inside. Outside of brackets a colon leads in a type, up to the
    next comma; inside, it sets off the name of a property from the name that is bound to it. -/
def boundNames (depth : Nat) (typed : Bool) (word : Text) : Text → List Text
  | [] => named word
  | c :: s =>
    if isWord c then boundNames depth typed (if typed then [] else word ++ [c]) s
    else if c = ':' then
      if depth = 0 then named word ++ boundNames 0 true [] s else boundNames depth typed [] s
    else if closingBrackets.contains c then
      match depth with
      | 0 => named word
      | depth + 1 => named word ++ boundNames depth typed [] s
    else if openingBrackets.contains c then named word ++ boundNames (depth + 1) typed [] s
    else named word ++ boundNames depth (typed && !(c = ',' && depth = 0)) [] s

/-- What follows a word that may lead in a function. -/
def dropWord (word s : Text) : Text := (after? (word ++ [' ']) s).getD s

/-- The blanks before a line. -/
def indentation (line : Text) : Text := line.takeWhile (· = ' ')

/-- What follows the opening parenthesis of the parameters, if the line begins a function. -/
def parameters? (line : Text) : Option Text := do
  let s := dropWord "async" (dropWord "default" (dropWord "export" (line.dropWhile (· = ' '))))
  let s ← after? "function " s
  after? "(" (s.dropWhile isWord)

/-- The names of the constants that a line in the body of a function declares. -/
def constants (indent line : Text) : List Text :=
  match after? (indent ++ "  const ") line with
  | some s => boundNames 0 false [] (s.takeWhile (· ≠ '='))
  | none => []

/-- The line that ends a function. -/
def closing (indent : Text) : Text := indent ++ ['\x7d']

/-- The names that each function binds: its parameters, and the constants of its body, which ends
    with the next bracket below the function's first letter. -/
def ofLines : List Text → List (List Text)
  | [] => []
  | line :: below =>
    match parameters? line with
    | none => ofLines below
    | some s =>
      let indent := indentation line
      (boundNames 0 false [] (s ++ '\n' :: lines below) ++
        (below.takeWhile (· ≠ closing indent)).flatMap (constants indent)) :: ofLines below

/-- The words that are reserved in the code of a module. -/
def reservedWords : List Text := ["await", "break", "case", "catch", "class", "const", "continue",
  "debugger", "default", "delete", "do", "else", "enum", "export", "extends", "false", "finally",
  "for", "function", "if", "implements", "import", "in", "instanceof", "interface", "let", "new",
  "null", "package", "private", "protected", "public", "return", "static", "super", "switch",
  "this", "throw", "true", "try", "typeof", "var", "void", "while", "with", "yield"]

/-- A function binds each name once, and no reserved word. -/
structure WellBound (scope : List Text) : Prop where
  once : scope.Nodup
  free : ∀ name ∈ scope, name ∉ reservedWords

instance (scope : List Text) : Decidable (WellBound scope) :=
  decidable_of_iff (scope.Nodup ∧ ∀ name ∈ scope, name ∉ reservedWords)
    ⟨fun ⟨once, free⟩ => ⟨once, free⟩, fun ⟨once, free⟩ => ⟨once, free⟩⟩

variable {line name s : Text}

theorem boundNames_append (letters : name.all isWord = true) (depth : Nat) (word rest : Text) :
    boundNames depth false word (name ++ rest) = boundNames depth false (word ++ name) rest := by
  induction name generalizing word with
  | nil => simp
  | cons c name ih =>
    simp only [List.all_cons, Bool.and_eq_true] at letters
    have first : boundNames depth false word (c :: (name ++ rest)) =
        boundNames depth false (word ++ [c]) (name ++ rest) := by
      rw [boundNames.eq_def]
      exact if_pos letters.1
    rw [List.cons_append, first, ih letters.2, List.append_assoc, List.singleton_append]

/-- A bracket that was opened before the text is closed in it. -/
def closes (depth : Nat) : Text → Bool
  | [] => false
  | c :: s =>
    if closingBrackets.contains c then
      match depth with
      | 0 => true
      | depth + 1 => closes depth s
    else closes (if openingBrackets.contains c then depth + 1 else depth) s

/-- A bracket is no letter and no colon. -/
theorem not_isWord_bracket : ∀ c ∈ openingBrackets ++ closingBrackets,
    ¬ isWord c = true ∧ c ≠ ':' := by
  intro c bracket
  simp only [openingBrackets, closingBrackets, List.cons_append, List.nil_append, List.mem_cons,
    List.not_mem_nil, or_false] at bracket
  rcases bracket with rfl | rfl | rfl | rfl | rfl | rfl | rfl | rfl <;> exact ⟨by decide, by decide⟩

/-- Nothing is bound behind the bracket that closes the parameters. -/
theorem boundNames_of_closes {depth : Nat} (closed : closes depth s = true) (typed : Bool)
    (word rest : Text) :
    boundNames depth typed word (s ++ rest) = boundNames depth typed word s := by
  induction s generalizing depth typed word with
  | nil => cases closed
  | cons c s ih =>
    rw [List.cons_append, boundNames.eq_def, boundNames.eq_def depth typed word (c :: s)]
    rw [closes.eq_def] at closed
    dsimp only at closed ⊢
    by_cases closing : closingBrackets.contains c = true
    · obtain ⟨letter, colon⟩ := not_isWord_bracket c (by simp_all)
      rw [if_pos closing] at closed
      rw [if_neg letter, if_neg colon, if_pos closing, if_neg letter, if_neg colon, if_pos closing]
      cases depth with
      | zero => rfl
      | succ depth => exact congrArg (named word ++ ·) (ih closed typed [])
    rw [if_neg closing] at closed
    by_cases opening : openingBrackets.contains c = true
    · obtain ⟨letter, colon⟩ := not_isWord_bracket c (by simp_all)
      rw [if_pos opening] at closed
      rw [if_neg letter, if_neg colon, if_neg closing, if_pos opening, if_neg letter, if_neg colon,
        if_neg closing, if_pos opening, ih closed]
    rw [if_neg opening] at closed
    by_cases letter : isWord c = true
    · rw [if_pos letter, if_pos letter]
      exact ih closed _ _
    rw [if_neg letter, if_neg letter]
    by_cases colon : c = ':'
    · rw [if_pos colon, if_pos colon]
      split_ifs with outermost
      · subst outermost
        exact congrArg (named word ++ ·) (ih closed _ _)
      · exact ih closed _ _
    · rw [if_neg colon, if_neg closing, if_neg opening, if_neg colon, if_neg closing,
        if_neg opening]
      exact congrArg (named word ++ ·) (ih closed _ _)

/-- A constant is bound under the name that stands before the equals sign. -/
theorem constants_append (letters : name.all isWord = true) (indent rest : Text) :
    constants indent (indent ++ "  const " ++ (name ++ (" = " ++ rest))) = named name := by
  have found : after? (indent ++ "  const ") (indent ++ "  const " ++ (name ++ (" = " ++ rest))) =
      some (name ++ (" = " ++ rest)) := after?_eq_some_iff.2 rfl
  have kept : ∀ c ∈ name, decide (c ≠ '=') = true := by
    intro c member
    refine decide_eq_true ?_
    rintro rfl
    exact absurd (List.all_eq_true.1 letters _ member) (by decide)
  have cut : (name ++ (" = " ++ rest)).takeWhile (· ≠ '=') = name ++ [' '] := by
    rw [List.takeWhile_append_of_pos kept]
    rfl
  unfold constants
  rw [found]
  dsimp only
  rw [cut, boundNames_append letters, List.nil_append]
  exact List.append_nil _

/-- The parameters stand behind the function's name. -/
theorem parameters?_eq {rest : Text} (letters : name.all isWord = true)
    (begins : line.dropWhile (· = ' ') = s)
    (function : after? "function " (dropWord "async" (dropWord "default" (dropWord "export" s))) =
      some (name ++ '(' :: rest)) :
    parameters? line = some rest := by
  have behind : (name ++ '(' :: rest).dropWhile isWord = '(' :: rest := by
    rw [List.dropWhile_append_of_pos (List.all_eq_true.1 letters),
      List.dropWhile_cons_of_neg (by decide)]
  unfold parameters?
  simp only [begins, Option.bind_eq_bind, Option.bind_some, function, behind]
  rfl

/-- No line begins a function. -/
def Silent (ls : List Text) : Prop :=
  ∀ line ∈ ls, parameters? line = none

theorem ofLines_append {front : List Text} (silent : Silent front) (rest : List Text) :
    ofLines (front ++ rest) = ofLines rest := by
  induction front with
  | nil => rfl
  | cons line front ih =>
    obtain ⟨first, others⟩ := List.forall_mem_cons.1 silent
    rw [List.cons_append, ofLines, first]
    exact ih others

/-- A function of a module by its first line and the lines of its body. -/
structure FunctionText where
  header : Text
  body : List Text

/-- The lines of functions, with an empty line before each. -/
def printed (functions : List FunctionText) : List Text :=
  functions.flatMap fun f => [] :: f.header :: (f.body ++ [closing []])

/-- The line stands in the body of a function of a module, which it does not close, and begins no
    function itself. -/
structure IsInner (line : Text) : Prop where
  silent : parameters? line = none
  within : after? (closing []) line = none

theorem IsInner.ne_closing (inner : IsInner line) : line ≠ closing [] := by
  rintro rfl
  exact absurd inner.within (by decide)

/-- The names that a function binds are those in its first line and the constants of its body. -/
structure Binds (f : FunctionText) (scope : List Text) : Prop where
  outermost : indentation f.header = []
  bound : ∃ s, parameters? f.header = some s ∧ closes 0 s = true ∧
    scope = boundNames 0 false [] s ++ f.body.flatMap (constants [])
  inner : ∀ line ∈ f.body, IsInner line

theorem ofLines_function {f : FunctionText} {scope : List Text} (binds : Binds f scope)
    (rest : List Text) :
    ofLines (f.header :: (f.body ++ closing [] :: rest)) = scope :: ofLines rest := by
  obtain ⟨outermost, ⟨s, header, closed, rfl⟩, inner⟩ := binds
  have other : ∀ line ∈ f.body, decide (line ≠ closing []) = true :=
    fun line member => decide_eq_true (inner line member).ne_closing
  have cut : (f.body ++ closing [] :: rest).takeWhile (· ≠ closing []) = f.body := by
    rw [List.takeWhile_append_of_pos other, List.takeWhile_cons_of_neg (by simp), List.append_nil]
  have below : ofLines (f.body ++ closing [] :: rest) = ofLines rest :=
    ofLines_append (fun line member => (inner line member).silent) _
  rw [ofLines, header]
  dsimp only
  rw [outermost, cut, boundNames_of_closes closed, below]

/-- The functions of a text bind what each of them binds. -/
theorem ofLines_printed {functions : List FunctionText} {found : List (List Text)}
    (binds : List.Forall₂ Binds functions found) (rest : List Text) :
    ofLines (printed functions ++ rest) = found ++ ofLines rest := by
  induction binds with
  | nil => rfl
  | @cons f scope functions found first _ ih =>
    have text : printed (f :: functions) ++ rest =
        [] :: f.header :: (f.body ++ closing [] :: (printed functions ++ rest)) := by
      simp [printed]
    rw [text]
    exact (ofLines_function first _).trans (congrArg (scope :: ·) ih)

theorem wellBound_append_named {own : List Text} (fit : WellBound own) (nonempty : [] ∉ own)
    (name : Text) :
    WellBound (own ++ named name) ↔ name ∉ own ∧ name ∉ reservedWords := by
  unfold named
  by_cases empty : name = []
  · subst empty
    simpa using iff_of_true fit ⟨nonempty, by decide⟩
  have bound : WellBound (own ++ [name]) ↔ name ∉ own ∧ name ∉ reservedWords := by
    constructor
    · intro bound
      refine ⟨fun member => ?_, bound.free name (by simp)⟩
      exact (List.nodup_append.1 bound.once).2.2 name member name (by simp) rfl
    · rintro ⟨fresh, free⟩
      refine ⟨fit.once.append (List.nodup_singleton name) ?_, List.forall_mem_append.2
        ⟨fit.free, by simpa using free⟩⟩
      simpa using fresh
  simpa [empty] using bound

end Scope

namespace Route

open Scope Text

variable {names : ModelNames}

/-! ## Handlers for one row -/

/-- The functions in the module of the handlers for one row. -/
def memberFunctions (s : Surroundings) (names : ModelNames) : List FunctionText := [
  { header := code "function parseId(id: string) ⟦"
    body := if s.options.uuid then [code "  return id;"]
      else [code "  const numericId = Number(id);", "",
        "  return Number.isNaN(numericId) ? null : numericId;"] },
  { header := code "function notFound() ⟦"
    body := [code "  return NextResponse.json(⟦ error: \"" ++ names.pascal
      ++ code " not found\" ⟧, ⟦ status: 404 ⟧);"] },
  { header := "async function find" ++ names.pascal ++ "(id: " ++ s.keyType ++ code ") ⟦"
    body := ["  const result = await db.select().from(" ++ names.camelPlural ++ ").where(eq("
      ++ names.camelPlural ++ ".id, id)).limit(1);", "", "  return result[0] ?? null;"] },
  { header := code "export async function GET(_request: Request, ⟦ params ⟧: RouteContext) ⟦"
    body := requireKey ++ (answerRow names).take 6 },
  { header := code "export async function PATCH(request: Request, ⟦ params ⟧: RouteContext) ⟦"
    body := requireKey ++ [code "  const data = await request.json();", "  await db",
      "    .update(" ++ names.camelPlural ++ ")", "    .set(" ++ s.updateValues ++ ")",
      "    .where(eq(" ++ names.camelPlural ++ ".id, id));", ""] ++ (answerRow names).take 6 },
  { header := code "export async function DELETE(_request: Request, ⟦ params ⟧: RouteContext) ⟦"
    body := requireKey ++ [code "  await db.delete(" ++ names.camelPlural ++ ").where(eq("
      ++ names.camelPlural ++ ".id, id));", "",
      code "  return new NextResponse(null, ⟦ status: 204 ⟧);"] }]

/-- The lines between the imports and the functions. -/
def routeContext : List Text :=
  ["", code "type RouteContext = ⟦ params: Promise<⟦ id: string ⟧> ⟧;"]

theorem below_printed {functions : List FunctionText}
    (below : ∀ f ∈ functions, Below (f.header :: f.body)) : Below (printed functions) := by
  intro line member
  obtain ⟨f, listed, inside⟩ := List.mem_flatMap.1 member
  have ends : Below [closing []] := by
    unfold Below
    decide
  rcases List.mem_cons.1 inside with rfl | inside
  · exact ⟨by decide, rfl⟩
  · exact (below f listed).append ends line inside

theorem below_requireKey {header : Text} {rest : List Text}
    (first : '\n' ∉ header ∧ after? "import " header = none) (below : Below rest) :
    Below (header :: (requireKey ++ rest)) := by
  have key : Below requireKey := by
    unfold Below requireKey
    decide
  exact List.forall_mem_cons.2 ⟨first, key.append below⟩

theorem below_answerRow (titled : names.Titled) : Below ((answerRow names).take 6) := by
  have model := titled.pascal.not_mem (c := '\n') rfl
  have row := titled.camel.not_mem (c := '\n') rfl
  unfold answerRow
  simp only [List.take, Below, List.forall_mem_cons]
  exact ⟨⟨by simp [row, model], rfl⟩, ⟨by simp [row, code], rfl⟩, by decide, by decide, by decide,
    ⟨by simp [row], rfl⟩, by simp⟩

/-- No line of the functions is like an import. -/
theorem below_memberFunctions (plain : names.Plain) (titled : names.Titled) (s : Surroundings) :
    ∀ f ∈ memberFunctions s names, Below (f.header :: f.body) := by
  have table := plain.camelPlural.not_mem (c := '\n') rfl
  have model := titled.pascal.not_mem (c := '\n') rfl
  have key := not_mem_keyType s
  have values := not_mem_updateValues s
  have answer := below_answerRow titled
  unfold memberFunctions
  simp only [List.forall_mem_cons]
  refine ⟨?_, ?_, ?_, ?_, ?_, ?_, by simp⟩
  · unfold Below
    cases s.options.uuid <;> decide
  · simp only [Below, List.forall_mem_cons]
    exact ⟨by decide, ⟨by simp [model, code], rfl⟩, by simp⟩
  · simp only [Below, List.forall_mem_cons]
    exact ⟨⟨by simp [model, key, code], rfl⟩, ⟨by simp [table], rfl⟩, by decide, by decide,
      by simp⟩
  · exact below_requireKey (by decide) answer
  · rw [List.append_assoc]
    refine below_requireKey (by decide) (.append ?_ answer)
    simp only [Below, List.forall_mem_cons]
    exact ⟨by decide, by decide, ⟨by simp [table], rfl⟩, ⟨by simp [values], rfl⟩,
      ⟨by simp [table], rfl⟩, by decide, by simp⟩
  · refine below_requireKey (by decide) ?_
    simp only [Below, List.forall_mem_cons]
    exact ⟨⟨by simp [table, code], rfl⟩, by decide, by decide, by simp⟩

/-- The text is the imports, the context and the functions. -/
theorem member_eq_lines (s : Surroundings) (names : ModelNames) :
    member s names = lines ([code "import ⟦ NextResponse ⟧ from \"next/server\";"] ++
      (s.imports names ++ code "import ⟦ eq ⟧ from \"drizzle-orm\";" ::
        (routeContext ++ printed (memberFunctions s names)))) := by
  unfold member memberFunctions parseKey routeContext printed answerRow
  simp only [List.flatMap_cons, List.flatMap_nil, List.cons_append, List.nil_append,
    List.append_assoc, List.append_nil, List.take]
  rfl

theorem belowImports_member (plain : names.Plain) (titled : names.Titled) (s : Surroundings) :
    belowImports (member s names) =
      routeContext ++ printed (memberFunctions s names) ++ [[]] := by
  have context : Below routeContext := by
    unfold Below routeContext
    decide
  have below := context.append (below_printed (below_memberFunctions plain titled s))
  rw [member_eq_lines, belowImports_lines _ _ _ (by decide) (by decide) below]

/-- The names under which a key is read. -/
def keyNames (options : Options) : List Text := if options.uuid then ["id"] else ["id", "numericId"]

/-- The names that a handler for one row binds: its parameters, the key, and more. -/
def handlerNames (request : Text) (more : List Text) : List Text :=
  [request, "params", "id"] ++ more

/-- The names that the functions of the module bind. -/
def memberScopes (s : Surroundings) (names : ModelNames) : List (List Text) := [
  keyNames s.options,
  [],
  ["id", "result"],
  handlerNames "_request" (named names.camel),
  handlerNames "request" ("data".toList :: named names.camel),
  handlerNames "_request" []]

theorem boundNames_keyType (s : Surroundings) :
    closes 0 ("id: " ++ (s.keyType ++ code ") ⟦")) = true ∧
      boundNames 0 false [] ("id: " ++ (s.keyType ++ code ") ⟦")) = ["id".toList] := by
  unfold Surroundings.keyType
  split_ifs <;> decide

/-- The lines that bring the key into scope and those that answer with the row are inner lines. -/
theorem inner_requireKey : ∀ line ∈ requireKey, IsInner line := by
  unfold requireKey
  simp only [List.forall_mem_cons]
  exact ⟨⟨rfl, rfl⟩, ⟨rfl, rfl⟩, ⟨rfl, rfl⟩, ⟨rfl, rfl⟩, ⟨rfl, rfl⟩, by simp⟩

theorem constants_requireKey : requireKey.flatMap (constants []) = ["id".toList] := rfl

theorem inner_answerRow (names : ModelNames) :
    ∀ line ∈ (answerRow names).take 6, IsInner line := by
  unfold answerRow
  simp only [List.take, List.forall_mem_cons]
  exact ⟨⟨rfl, rfl⟩, ⟨rfl, rfl⟩, ⟨rfl, rfl⟩, ⟨rfl, rfl⟩, ⟨rfl, rfl⟩, ⟨rfl, rfl⟩, by simp⟩

theorem constants_answerRow (titled : names.Titled) :
    ((answerRow names).take 6).flatMap (constants []) = named names.camel := by
  have row := constants_append (all_isWord_of_plain titled.camel) []
    ("await find" ++ names.pascal ++ "(id);")
  have line :
      constants [] ("  const " ++ names.camel ++ " = await find" ++ names.pascal ++ "(id);") =
        named names.camel := by
    rw [← row]
    congr 1
    simp
  unfold answerRow
  rw [List.take_succ_cons, List.flatMap_cons, line]
  exact List.append_nil _

theorem binds_handler {header s request : Text} {rest more : List Text}
    (outermost : indentation header = []) (begins : parameters? header = some s)
    (closed : closes 0 s = true) (bound : boundNames 0 false [] s = [request, "params"])
    (declared : rest.flatMap (constants []) = more) (inner : ∀ line ∈ rest, IsInner line) :
    Binds ⟨header, requireKey ++ rest⟩ (handlerNames request more) where
  outermost := outermost
  bound := by
    refine ⟨s, begins, closed, ?_⟩
    rw [List.flatMap_append, constants_requireKey, declared, bound]
    rfl
  inner := List.forall_mem_append.2 ⟨inner_requireKey, inner⟩

theorem binds_memberFunctions (titled : names.Titled) (s : Surroundings) :
    List.Forall₂ Binds (memberFunctions s names) (memberScopes s names) := by
  have answer := constants_answerRow titled
  unfold memberFunctions memberScopes keyNames
  refine .cons ?_ (.cons ?_ (.cons ?_ (.cons ?_ (.cons ?_ (.cons ?_ .nil)))))
  · cases s.options.uuid
    · refine ⟨rfl, ⟨code "id: string) ⟦", rfl, by decide, by decide⟩, ?_⟩
      exact List.forall_mem_cons.2 ⟨⟨rfl, rfl⟩, List.forall_mem_cons.2 ⟨⟨rfl, rfl⟩,
        List.forall_mem_singleton.2 ⟨rfl, rfl⟩⟩⟩
    · exact ⟨rfl, ⟨code "id: string) ⟦", rfl, by decide, by decide⟩,
        List.forall_mem_singleton.2 ⟨rfl, rfl⟩⟩
  · exact ⟨rfl, ⟨code ") ⟦", rfl, by decide, rfl⟩, List.forall_mem_singleton.2 ⟨rfl, rfl⟩⟩
  · obtain ⟨closed, key⟩ := boundNames_keyType s
    refine ⟨rfl, ⟨"id: " ++ (s.keyType ++ code ") ⟦"), ?_, closed, ?_⟩, ?_⟩
    · have letters : ("find" ++ names.pascal).all isWord = true := by
        rw [List.all_append, all_isWord_of_plain titled.pascal]
        rfl
      have line : "async function find" ++ names.pascal ++ "(id: " ++ s.keyType ++ code ") ⟦" =
          "async function " ++
            (("find" ++ names.pascal) ++ '(' :: ("id: " ++ (s.keyType ++ code ") ⟦"))) := by
        simp
      rw [line]
      exact parameters?_eq letters rfl rfl
    · rw [key]
      rfl
    · simp only [List.forall_mem_cons]
      exact ⟨⟨rfl, rfl⟩, ⟨rfl, rfl⟩, ⟨rfl, rfl⟩, by simp⟩
  · exact binds_handler (s := code "_request: Request, ⟦ params ⟧: RouteContext) ⟦") rfl
      (by decide) (by decide) (by decide) answer (inner_answerRow names)
  · rw [List.append_assoc]
    refine binds_handler (s := code "request: Request, ⟦ params ⟧: RouteContext) ⟦") rfl
      (by decide) (by decide) (by decide) ?_
      (List.forall_mem_append.2 ⟨?_, inner_answerRow names⟩)
    · rw [List.flatMap_append, answer]
      rfl
    · simp only [List.forall_mem_cons]
      exact ⟨⟨rfl, rfl⟩, ⟨rfl, rfl⟩, ⟨rfl, rfl⟩, ⟨rfl, rfl⟩, ⟨rfl, rfl⟩, ⟨rfl, rfl⟩, by simp⟩
  · refine binds_handler (s := code "_request: Request, ⟦ params ⟧: RouteContext) ⟦") rfl
      (by decide) (by decide) (by decide) rfl ?_
    simp only [List.forall_mem_cons]
    exact ⟨⟨rfl, rfl⟩, ⟨rfl, rfl⟩, ⟨rfl, rfl⟩, by simp⟩

theorem ofLines_member (plain : names.Plain) (titled : names.Titled) (s : Surroundings) :
    ofLines (belowImports (member s names)) = memberScopes s names := by
  have silent : Silent routeContext := by
    unfold routeContext Silent
    decide
  rw [belowImports_member plain titled, List.append_assoc, ofLines_append silent,
    ofLines_printed (binds_memberFunctions titled s)]
  exact List.append_nil _

/-- The names next to which the handlers bind the row. -/
def memberNames : List Text := handlerNames "_request" [] ++ handlerNames "request" ["data"]

theorem wellBound_keyNames (options : Options) : WellBound (keyNames options) := by
  unfold keyNames
  split_ifs <;> decide

theorem wellBound_read : WellBound (handlerNames "_request" []) := by decide

theorem wellBound_updated : WellBound (handlerNames "request" ["data"]) := by decide

theorem wellBound_found : WellBound ["id", "result"] := by decide

/-- The handlers bind each name once and no reserved word, exactly if the row's name is none of
    theirs and not reserved. -/
theorem wellBound_member_iff (plain : names.Plain) (titled : names.Titled) (s : Surroundings) :
    (∀ scope ∈ ofLines (belowImports (member s names)), WellBound scope) ↔
      names.camel ∉ memberNames ∧ names.camel ∉ reservedWords := by
  have read : WellBound (handlerNames "_request" (named names.camel)) ↔
      names.camel ∉ handlerNames "_request" [] ∧ names.camel ∉ reservedWords :=
    wellBound_append_named wellBound_read (by decide) names.camel
  have update : WellBound (handlerNames "request" ("data".toList :: named names.camel)) ↔
      names.camel ∉ handlerNames "request" ["data"] ∧ names.camel ∉ reservedWords :=
    wellBound_append_named wellBound_updated (by decide) names.camel
  have nothing : WellBound [] := ⟨List.nodup_nil, by simp⟩
  rw [ofLines_member plain titled]
  unfold memberScopes
  simp only [List.forall_mem_cons, wellBound_keyNames, nothing, wellBound_found, read, update,
    wellBound_read, true_and, and_true, List.not_mem_nil, false_implies, implies_true]
  rw [memberNames, List.mem_append, not_or]
  exact ⟨fun ⟨⟨read, free⟩, updated, _⟩ => ⟨⟨read, updated⟩, free⟩,
    fun ⟨⟨read, updated⟩, free⟩ => ⟨⟨read, free⟩, updated, free⟩⟩

end Route

end Groundwork
