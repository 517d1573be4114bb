import Groundwork.Proofs.Schema.Definition

/-!
# Values of an enum, read back

A schema lists the values of an enum as string literals between brackets. Reading the list as the
target language does, up to the first bracket that no literal holds, gives the values again, and
nothing of the list is left (`literalList?_choiceLiterals`): what is escaped neither ends a literal
nor keeps it open. The list of every enum field of a model stands where its declaration begins a
line (`choices_read_back`).
-/

namespace Groundwork.Schema

open Text

variable {names : ModelNames} {fields : List Field} {f : Field} {value s rest : Text}

/-! ## String literals -/

/-- The character that a character after a backslash stands for. Codes of characters and ends of
    lines are not read. -/
def unescaped? (c : Char) : Option Char :=
  if c = 'b' then some '\x08'
  else if c = 'f' then some '\x0c'
  else if c = 'n' then some '\n'
  else if c = 'r' then some '\r'
  else if c = 't' then some '\t'
  else if c = 'v' then some '\x0b'
  else if c.isDigit || "ux\n\r\u2028\u2029".toList.contains c then none
  else some c

/-- A value as a string literal. -/
def literal (value : Text) : Text := "\"" ++ escaped value ++ "\""

/-- The value of a string literal after its opening quotation mark, and what follows the closing
    one. A literal ends on its line. -/
def literalRest? : Text → Option (Text × Text)
  | [] => none
  | '\\' :: c :: s => do
    let d ← unescaped? c
    let (value, rest) ← literalRest? s
    return (d :: value, rest)
  | c :: s =>
    if c = '"' then some ([], s)
    else if c = '\n' || c = '\r' then none
    else do
      let (value, rest) ← literalRest? s
      return (c :: value, rest)

/-- The value of a string literal at the front of a text, and what follows it. -/
def literal? : Text → Option (Text × Text)
  | '"' :: s => literalRest? s
  | _ => none

/-- The text from its first character that is no space. -/
def dropSpaces (s : Text) : Text := s.dropWhile (· = ' ')

theorem length_literalRest? (read : literalRest? s = some (value, rest)) :
    rest.length < s.length := by
  fun_induction literalRest? s generalizing value with
  | case1 => cases read
  | case2 c s ih =>
    simp only [Option.bind_eq_bind, Option.bind_eq_some_iff] at read
    obtain ⟨d, -, ⟨inner, tail⟩, inside, same⟩ := read
    obtain ⟨rfl, rfl⟩ := Prod.mk.inj (Option.some.inj same)
    have shorter := ih inside
    rw [List.length_cons, List.length_cons]
    omega
  | case3 s =>
    obtain ⟨rfl, rfl⟩ := Prod.mk.inj (Option.some.inj read)
    simp
  | case4 => cases read
  | case5 c s _ _ _ ih =>
    simp only [Option.bind_eq_bind, Option.bind_eq_some_iff] at read
    obtain ⟨⟨inner, tail⟩, inside, same⟩ := read
    obtain ⟨rfl, rfl⟩ := Prod.mk.inj (Option.some.inj same)
    have shorter := ih inside
    rw [List.length_cons]
    omega

theorem length_literal? (read : literal? s = some (value, rest)) : rest.length < s.length := by
  unfold literal? at read
  split at read
  · next t =>
    have shorter := length_literalRest? read
    rw [List.length_cons]
    omega
  · cases read

theorem length_dropSpaces_le (s : Text) : (dropSpaces s).length ≤ s.length :=
  (List.dropWhile_sublist _).length_le

/-- The values of string literals with a comma between two of them, up to the closing bracket, and
    what follows the bracket; at least one. -/
def literals? (s : Text) : Option (List Text × Text) :=
  match _read : literal? s with
  | none => none
  | some (value, behind) =>
    match _next : dropSpaces behind with
    | ']' :: rest => some ([value], rest)
    | ',' :: later =>
      (literals? (dropSpaces later)).map fun (values, rest) => (value :: values, rest)
    | _ => none
termination_by s.length
decreasing_by
  have shorter := length_literal? _read
  have noLonger := length_dropSpaces_le behind
  have noLongerLater := length_dropSpaces_le later
  rw [_next, List.length_cons] at noLonger
  omega

/-- The values of string literals after an opening bracket, and what follows the closing one. -/
def literalList? (s : Text) : Option (List Text × Text) :=
  match dropSpaces s with
  | ']' :: rest => some ([], rest)
  | s => literals? s

/-! ## Escaped values -/

theorem escaped_cons (c : Char) (s : Text) :
    escaped (c :: s) = (if c = '\\' || c = '"' then ['\\', c] else [c]) ++ escaped s :=
  List.flatMap_cons

/-- An escaped value is read as it was, up to the quotation mark behind it, if it stays on its
    line. -/
theorem literalRest?_escaped (oneLine : isOneLine value = true) (rest : Text) :
    literalRest? (escaped value ++ '"' :: rest) = some (value, rest) := by
  induction value with
  | nil => rfl
  | cons c value ih =>
    rw [isOneLine_cons, Bool.and_eq_true, Bool.and_eq_true, decide_eq_true_eq,
      decide_eq_true_eq] at oneLine
    obtain ⟨⟨noFeed, noReturn⟩, others⟩ := oneLine
    have read := ih others
    rw [escaped_cons]
    by_cases backslash : c = '\\'
    · subst backslash
      simp [literalRest?, unescaped?, read]
    by_cases quote : c = '"'
    · subst quote
      simp [literalRest?, unescaped?, read]
    · simp [literalRest?, backslash, quote, noFeed, noReturn, read]

theorem literal?_literal (oneLine : isOneLine value = true) (rest : Text) :
    literal? (literal value ++ rest) = some (value, rest) := by
  have read := literalRest?_escaped oneLine rest
  unfold literal
  simpa [literal?] using read

/-- After a literal the list ends or goes on. -/
theorem literals?_of_literal? {behind : Text} (read : literal? s = some (value, behind)) :
    literals? s =
      match dropSpaces behind with
      | ']' :: rest => some ([value], rest)
      | ',' :: later =>
        (literals? (dropSpaces later)).map fun (values, rest) => (value :: values, rest)
      | _ => none := by
  rw [literals?]
  split
  · next none => simp [read] at none
  · next some =>
    rw [read] at some
    obtain ⟨rfl, rfl⟩ := Prod.mk.inj (Option.some.inj some)
    split <;> simp_all

/-- A list of literals begins with a quotation mark. -/
theorem exists_literals {values : List Text} (nonempty : values ≠ []) :
    ∃ s, List.intercalate ", " (values.map literal) = '"' :: s := by
  obtain ⟨value, values, rfl⟩ := List.exists_cons_of_ne_nil nonempty
  rw [List.map_cons, intercalate_cons]
  exact ⟨_, rfl⟩

theorem literals?_intercalate {values : List Text} (nonempty : values ≠ [])
    (oneLine : ∀ value ∈ values, isOneLine value = true) (rest : Text) :
    literals? (List.intercalate ", " (values.map literal) ++ ']' :: rest) =
      some (values, rest) := by
  induction values with
  | nil => exact absurd rfl nonempty
  | cons value values ih =>
    have first := oneLine value List.mem_cons_self
    cases values with
    | nil =>
      rw [List.map_cons, List.map_nil, List.intercalate_singleton,
        literals?_of_literal? (literal?_literal first _)]
      rfl
    | cons next values =>
      have later := ih (List.cons_ne_nil _ _) fun other member =>
        oneLine other (List.mem_cons_of_mem _ member)
      obtain ⟨s, quoted⟩ := exists_literals (List.cons_ne_nil next values)
      rw [quoted] at later
      rw [List.map_cons, List.map_cons, List.intercalate_cons_cons, ← List.map_cons, quoted,
        List.append_assoc, List.append_assoc, literals?_of_literal? (literal?_literal first _)]
      -- the comma and the space behind the first literal are read over
      show (literals? ('"' :: s ++ ']' :: rest)).map _ = _
      rw [later]
      rfl

/-- The list of an enum's values is read as these values, up to the bracket that is written behind
    them. -/
theorem literalList?_choiceLiterals (oneLine : ∀ value ∈ f.choiceList, isOneLine value = true)
    (rest : Text) :
    literalList? (choiceLiterals f ++ ']' :: rest) = some (f.choiceList, rest) := by
  have listed : choiceLiterals f = List.intercalate ", " (f.choiceList.map literal) := rfl
  rw [listed]
  by_cases empty : f.choiceList = []
  · rw [empty]
    rfl
  · have read := literals?_intercalate empty oneLine rest
    obtain ⟨s, quoted⟩ := exists_literals empty
    rw [quoted] at read ⊢
    exact read

/-! ## Where the values are listed -/

/-- What a schema writes before the values of a field's enum, up to the bracket: in PostgreSQL the
    beginning of the enum's export, else that of the field's column. -/
def choicesLead (names : ModelNames) (f : Field) : Dialect → Text
  | .postgresql =>
    "export const " ++ enumName names f ++ " = pgEnum(\"" ++ names.snake ++ "_"
      ++ Naming.snake f.name ++ "\", ["
  | .mysql => "  " ++ f.name ++ ": mysqlEnum(\"" ++ Naming.snake f.name ++ "\", ["
  | .sqlite =>
    "  " ++ f.name ++ ": text(\"" ++ Naming.snake f.name ++ Text.code "\", ⟦ enum: ["

/-- A text stands in a longer one where a line begins. -/
def BeginsLineIn (part whole : Text) : Prop :=
  ∃ before after, whole = before ++ (part ++ after) ∧ beginsLine (charBefore none before) = true

/-- The pieces of a text of lines begin lines in it. -/
theorem beginsLineIn_intercalate {gap : Text} {pieces : List Text} {piece : Text}
    (ends : ∃ s, gap = s ++ ['\n']) (listed : piece ∈ pieces) :
    BeginsLineIn piece (List.intercalate gap pieces) := by
  obtain ⟨earlier, later, rfl⟩ := List.append_of_mem listed
  obtain ⟨s, rfl⟩ := ends
  refine ⟨_, _, intercalate_cut _ earlier later piece, ?_⟩
  exact beginsLine_flatMap rfl fun other _ => ⟨other ++ s, (List.append_assoc _ _ _).symm⟩

theorem BeginsLineIn.trans {part middle whole : Text} (inner : BeginsLineIn part middle)
    (outer : BeginsLineIn middle whole) : BeginsLineIn part whole := by
  obtain ⟨front, back, rfl, begins⟩ := inner
  obtain ⟨before, after, rfl, outerBegins⟩ := outer
  refine ⟨before ++ front, back ++ after, by simp, ?_⟩
  rw [charBefore_append]
  rcases beginsLine_charBefore_none.1 begins with rfl | ⟨line, rfl⟩
  · exact outerBegins
  · rw [charBefore_concat]
    rfl

/-- What a schema writes behind the bracket that ends the values of a field's enum. -/
def choicesRest (f : Field) : Dialect → Text
  | .postgresql => ");"
  | .mysql => ")" ++ (modifiers f ++ ",")
  | .sqlite => Text.code " ⟧)" ++ (modifiers f ++ ",")

theorem enumExport_eq_lead (names : ModelNames) (f : Field) :
    enumExport names f = choicesLead names f .postgresql ++
      (choiceLiterals f ++ ']' :: choicesRest f .postgresql) := by
  have closing : ("]);" : Text) = ']' :: ");" := rfl
  unfold enumExport choicesLead choicesRest
  simp only [closing, List.append_assoc]

theorem columnLine_eq_lead (names : ModelNames) (isEnum : f.isEnum = true) {dialect : Dialect}
    (inline : dialect ≠ .postgresql) (options : Options) :
    columnLine names f dialect options =
      choicesLead names f dialect ++ (choiceLiterals f ++ ']' :: choicesRest f dialect) := by
  unfold columnLine columnCall
  rw [if_pos isEnum]
  cases dialect with
  | postgresql => exact absurd rfl inline
  | mysql =>
    have opening : (": mysqlEnum(\"" : Text) = ": " ++ "mysqlEnum(\"" := rfl
    have closing : ("])" : Text) = ']' :: ")" := rfl
    unfold enumCall choicesLead choicesRest
    simp only [opening, closing, List.append_assoc, List.cons_append]
  | sqlite =>
    have opening : (": text(\"" : Text) = ": " ++ "text(\"" := rfl
    have closing : Text.code "] ⟧)" = ']' :: Text.code " ⟧)" := rfl
    unfold enumCall choicesLead choicesRest
    simp only [opening, closing, List.append_assoc, List.cons_append]

/-- The list of every enum's values begins a line of the definitions. -/
theorem beginsLineIn_definitions (names : ModelNames) (listed : f ∈ fields)
    (isEnum : f.isEnum = true) (given : f.choiceList ≠ []) (dialect : Dialect)
    (options : Options) :
    BeginsLineIn
      (choicesLead names f dialect ++ (choiceLiterals f ++ ']' :: choicesRest f dialect))
      (definitions names fields dialect options) := by
  have gap : ∃ s, ("\n\n" : Text) = s ++ ['\n'] := ⟨"\n", rfl⟩
  by_cases exported : dialect = .postgresql
  · subst exported
    rw [← enumExport_eq_lead]
    apply beginsLineIn_intercalate gap
    have among : f ∈ fields.filter fun f => f.isEnum && !f.choiceList.isEmpty := by
      simp [listed, isEnum, given]
    exact List.mem_append_left _ (List.mem_map_of_mem among)
  · rw [← columnLine_eq_lead names isEnum exported options]
    have line : columnLine names f dialect options ∈ tableLines names fields dialect options :=
      mem_tableLines_iff.2 (.inr (.inl ⟨f, listed, rfl⟩))
    have inLines := beginsLineIn_intercalate ⟨[], rfl⟩ line
    have inTable : BeginsLineIn (List.intercalate "\n" (tableLines names fields dialect options))
        (tableExport names fields dialect options) := by
      have opening : Text.code "\", ⟦\n" = Text.code "\", ⟦" ++ ['\n'] := rfl
      refine ⟨"export const " ++ names.camelPlural ++ " = " ++ dialect.tableBuilder ++ "(\""
        ++ names.table ++ Text.code "\", ⟦" ++ ['\n'], Text.code "\n⟧);", ?_, ?_⟩
      · unfold tableExport
        rw [opening]
        simp only [List.append_assoc]
      · rw [charBefore_concat]
        rfl
    exact (inLines.trans inTable).trans (beginsLineIn_intercalate gap (by simp))

/-- The values of an enum are read back from the definitions of every model that has the field: its
    list begins a line, and it is read as the values up to its own bracket. -/
theorem choices_read_back {token : Text} (read : Field.ofToken token = .ok f)
    (isEnum : f.isEnum = true) (oneLine : ∀ value ∈ f.choiceList, isOneLine value = true)
    (names : ModelNames) (listed : f ∈ fields) (dialect : Dialect) (options : Options) :
    ∃ before behind, definitions names fields dialect options =
        before ++ (choicesLead names f dialect ++ (choiceLiterals f ++ ']' :: behind)) ∧
      beginsLine (charBefore none before) = true ∧
      literalList? (choiceLiterals f ++ ']' :: behind) = some (f.choiceList, behind) := by
  have given := (Field.wellFormed_of_ofToken read).choices isEnum
  obtain ⟨before, after, text, begins⟩ :=
    beginsLineIn_definitions names listed isEnum given dialect options
  refine ⟨before, choicesRest f dialect ++ after, ?_, begins, ?_⟩
  · rw [text]
    simp only [List.append_assoc, List.cons_append]
  · exact literalList?_choiceLiterals oneLine _

/-- A token whose values hold quotation marks, backslashes and what looks like the end of a list. -/
def mottoToken : Text := "motto:enum:\\,a\"],\"b\\\\\" ])"

/-- The field of the token. -/
def motto : Field where
  name := "motto"
  kind := .enum
  isEnum := true
  choices := some ["\\", "a\"]", "\"b\\\\\" ])"]

theorem motto_read_back :
    Field.ofToken mottoToken = .ok motto ∧ motto.isEnum = true ∧
    (∀ value ∈ motto.choiceList, isOneLine value = true) ∧ motto ∈ [motto] ∧
    ∃ before behind, definitions (ModelNames.ofName "post") [motto] .mysql {} =
        before ++ (choicesLead (ModelNames.ofName "post") motto .mysql ++
          (choiceLiterals motto ++ ']' :: behind)) ∧
      beginsLine (charBefore none before) = true ∧
      literalList? (choiceLiterals motto ++ ']' :: behind) = some (motto.choiceList, behind) := by
  have read : Field.ofToken mottoToken = .ok motto := rfl
  have oneLine : ∀ value ∈ motto.choiceList, isOneLine value = true := by decide
  have listed : motto ∈ [motto] := List.mem_singleton_self motto
  exact ⟨read, rfl, oneLine, listed, choices_read_back read rfl oneLine _ listed .mysql {}⟩

end Groundwork.Schema
