import Groundwork.Page.Detail
import Groundwork.Proofs.Page.Forms
import Groundwork.Proofs.Route.Bindings

/-!
# Names bound on pages

The pages of one record bind the record under the model's name, next to names of their own. They
are read above the markup that a page returns, function by function. With the handlers for one row
they bind each name once and no reserved word exactly if the model's name is none of their own names
and not reserved (`wellBound_iff`).
-/

namespace Groundwork

namespace Text

variable {a b line s t : Text}

/-! ## Line feeds before quotation marks -/

/-- Each line feed of the text stands before a quotation mark. -/
def FeedsQuoted (s : Text) : Prop := ∀ a b, s = a ++ '\n' :: b → ∃ rest, b = '"' :: rest

theorem FeedsQuoted.of_not_mem (line : '\n' ∉ s) : FeedsQuoted s := by
  rintro a b rfl
  simp at line

theorem FeedsQuoted.append (first : FeedsQuoted s) (second : FeedsQuoted t) :
    FeedsQuoted (s ++ t) := by
  intro a b cut
  rcases List.append_eq_append_iff.1 cut with ⟨later, rfl, behind⟩ | ⟨earlier, rfl, behind⟩
  · exact second later b behind
  · cases earlier with
    | nil => exact second [] b behind.symm
    | cons c earlier =>
      obtain ⟨rfl, rfl⟩ := List.cons.inj behind
      obtain ⟨rest, rfl⟩ := first a earlier rfl
      exact ⟨rest ++ t, rfl⟩

theorem FeedsQuoted.of_quote (line : '\n' ∉ s) : FeedsQuoted ('\n' :: '"' :: s) := by
  intro a b cut
  cases a with
  | nil => exact ⟨s, (List.cons.inj cut).2.symm⟩
  | cons c a =>
    have inside : '\n' ∈ '"' :: s := by simp [(List.cons.inj cut).2]
    simp [line] at inside

/-- The first line of a text begins it, and each later one stands behind a line feed. -/
theorem split_eq_cons (s : Text) : ∃ first later, split '\n' s = first :: later ∧ first <+: s ∧
    ∀ line ∈ later, ∃ a b, s = a ++ '\n' :: b ∧ line <+: b := by
  induction s with
  | nil => exact ⟨[], [], rfl, List.nil_prefix, by simp⟩
  | cons c s ih =>
    obtain ⟨first, later, cut, begins, behind⟩ := ih
    have shift : ∀ line ∈ later, ∃ a b, c :: s = a ++ '\n' :: b ∧ line <+: b := by
      intro line member
      obtain ⟨a, b, rfl, ends⟩ := behind line member
      exact ⟨c :: a, b, rfl, ends⟩
    rw [split, cut]
    by_cases feed : c = '\n'
    · subst feed
      rw [if_pos rfl]
      refine ⟨[], first :: later, rfl, List.nil_prefix, List.forall_mem_cons.2 ⟨?_, shift⟩⟩
      exact ⟨[], s, rfl, begins⟩
    · rw [if_neg feed]
      exact ⟨c :: first, later, rfl, List.cons_prefix_cons.2 ⟨rfl, begins⟩, shift⟩

end Text

namespace Form

open Text

variable {f : Field}

/-- Where the field's name ends in a line feed, it stands before the quotation mark that ends the
    name. -/
theorem feedsQuoted_submitted {word : Text} (plain : Plain word) (named : f.name = word ++ ['\n'])
    (uuid : Bool) : FeedsQuoted (submitted f uuid) := by
  have literal {s : Text} (line : '\n' ∉ s) : FeedsQuoted s := .of_not_mem line
  have entry : FeedsQuoted (submittedEntry f) := by
    have ended : FeedsQuoted ('\n' :: '"' :: [')']) := .of_quote (by decide)
    have shape : submittedEntry f = "formData.get(\"" ++ (word ++ '\n' :: '"' :: [')']) := by
      unfold submittedEntry
      simp [named]
    rw [shape]
    exact (literal (by decide)).append ((literal (plain.not_mem rfl)).append ended)
  cases boolean : f.kind.isBoolean with
  | true =>
    have shape : submitted f uuid = submittedEntry f ++
        (if f.nullable then " === \"on\" ? true : null" else " === \"on\"" : Text) := by
      unfold submitted submittedEntry
      simp only [boolean, if_true]
      split_ifs <;> simp
    rw [shape]
    exact entry.append (literal (by split_ifs <;> decide))
  | false =>
    obtain ⟨before, behind⟩ := not_mem_conversion (.inr rfl) f uuid
    rw [submitted_eq uuid boolean]
    split_ifs
    · exact entry.append ((literal (by decide)).append ((literal before).append (entry.append
        ((literal behind).append (literal (by decide))))))
    · exact (literal before).append (entry.append (literal behind))

end Form

namespace Scope

open Text

variable {rest : Text}

/-- The line from which on a page is markup. -/
def markupOpening : Text := "  return ("

/-- The line begins no function, declares no constant in a function of a module or in a function in
    its body, closes neither, and stands above markup. -/
structure IsIdle (line : Text) : Prop where
  silent : parameters? line = none
  outer : constants [] line = []
  inner : constants "  " line = []
  outerEnd : decide (line = closing []) = false
  innerEnd : decide (line = closing "  ") = false
  markup : after? markupOpening line = none

theorem isIdle_of_isPrefix {line : Text} {c : Char} (other : c = ':' ∨ c = '"')
    (begins : line <+: c :: rest) : IsIdle line := by
  cases line with
  | nil => exact ⟨rfl, rfl, rfl, rfl, rfl, rfl⟩
  | cons d line =>
    obtain ⟨rfl, -⟩ := List.cons_prefix_cons.1 begins
    rcases other with rfl | rfl <;> exact ⟨rfl, rfl, rfl, rfl, rfl, rfl⟩

/-- A word without blanks does not lead in a function if nothing or a colon stands behind it. -/
theorem after?_of_plain {name : Text} (word : Text) (noColon : ':' ∉ word) (plain : Plain name)
    (ends : rest = [] ∨ ∃ b, rest = ':' :: b) : after? (word ++ [' ']) (name ++ rest) = none := by
  have space : ' ' ∉ name := plain.not_mem rfl
  cases found : after? (word ++ [' ']) (name ++ rest) with
  | none => rfl
  | some s =>
    rw [after?_eq_some_iff, List.append_assoc] at found
    rcases List.append_eq_append_iff.1 found with ⟨later, rfl, behind⟩ | ⟨later, rfl, behind⟩
    · rcases ends with rfl | ⟨b, rfl⟩
      · simp at behind
      · cases later with
        | nil => exact absurd (List.cons.inj behind).1 (by decide)
        | cons c later =>
          obtain rfl : ':' = c := (List.cons.inj behind).1
          simp at noColon
    · cases later with
      | nil =>
        rcases ends with rfl | ⟨b, rfl⟩
        · simp at behind
        · exact absurd (List.cons.inj behind).1 (by decide)
      | cons c later =>
        obtain rfl : ' ' = c := (List.cons.inj behind).1
        simp at space

/-- The name of a property may begin like a function, but no blank stands behind it. -/
theorem isIdle_of_plain {c : Char} {s : Text} (plain : Plain (c :: s))
    (ends : rest = [] ∨ ∃ b, rest = ':' :: b) : IsIdle ("      " ++ (c :: s ++ rest)) := by
  refine ⟨?_, rfl, rfl, rfl, rfl, rfl⟩
  have dropped {word : Text} (noColon : ':' ∉ word) :
      dropWord word (c :: s ++ rest) = c :: s ++ rest := by
    unfold dropWord
    rw [after?_of_plain word noColon plain ends]
    rfl
  have letter : c ≠ ' ' := by
    rintro rfl
    exact absurd (plain ' ' (by simp)) (by decide)
  have blanks : ("      " ++ (c :: s ++ rest)).dropWhile (· = ' ') = c :: s ++ rest := by
    have first : (c :: (s ++ rest)).dropWhile (· = ' ') = c :: (s ++ rest) :=
      List.dropWhile_cons_of_neg (by simpa using letter)
    exact first
  have none : after? "function ".toList (c :: s ++ rest) = none :=
    after?_of_plain "function" (by decide) plain ends
  unfold parameters?
  rw [blanks, dropped (by decide), dropped (by decide), dropped (by decide)]
  dsimp only
  rw [none]
  rfl

end Scope

/-- An identifier is a word, perhaps with a line feed behind it. -/
theorem word_of_isIdentifier {first : Char → Bool} {name : Text}
    (identifier : isIdentifier first name = true) :
    ∃ c s, Text.Plain (c :: s) ∧ (name = c :: s ∨ name = c :: s ++ ['\n']) := by
  obtain ⟨c, s, named, letter, -, letters⟩ := isIdentifier_iff.1 identifier
  refine ⟨c, s, List.forall_mem_cons.2 ⟨?_, fun d member => ?_⟩, named⟩
  · simp [Text.isPlain, Char.isAlphanum, letter]
  · simp [Text.isPlain, letters d member]

namespace Page

open Scope Text Form

variable {f : Field} {fields : List Field} {names : ModelNames}

/-! ## Properties -/

theorem isIdle_propertyLine (identifier : isIdentifier Char.isLower f.name = true) (uuid : Bool) :
    ∀ line ∈ split '\n' (propertyLine f uuid), IsIdle line := by
  obtain ⟨c, s, plain, named | named⟩ := word_of_isIdentifier identifier
  · have line : '\n' ∉ propertyLine f uuid := by
      rw [← named] at plain
      unfold propertyLine
      simp [plain.not_mem (c := '\n') rfl, not_mem_submitted plain uuid]
    have shape : propertyLine f uuid =
        "      " ++ (c :: s ++ ':' :: (" " ++ submitted f uuid ++ ",")) := by
      unfold propertyLine
      simp [named]
    rw [split_of_not_mem line, shape, List.forall_mem_singleton]
    exact isIdle_of_plain plain (.inr ⟨_, rfl⟩)
  · have shape : propertyLine f uuid =
        ("      " : Text) ++ (c :: s ++ []) ++
          '\n' :: (':' :: (" " ++ submitted f uuid ++ ",")) := by
      unfold propertyLine
      simp [named]
    have line : '\n' ∉ ("      " : Text) ++ (c :: s ++ []) := by
      simpa using plain.not_mem (c := '\n') rfl
    rw [shape, split_append, split_of_not_mem line, List.forall_mem_append,
      List.forall_mem_singleton]
    refine ⟨isIdle_of_plain plain (.inl rfl), ?_⟩
    have value : FeedsQuoted (submitted f uuid) := feedsQuoted_submitted plain named uuid
    have quoted : FeedsQuoted (':' :: (" " ++ submitted f uuid ++ ",")) := by
      have before : FeedsQuoted (": " : Text) := .of_not_mem (by decide)
      have behind : FeedsQuoted ("," : Text) := .of_not_mem (by decide)
      exact (before.append value).append behind
    obtain ⟨first, later, cut, begins, behind⟩ :=
      split_eq_cons (':' :: (" " ++ submitted f uuid ++ ","))
    rw [cut, List.forall_mem_cons]
    refine ⟨isIdle_of_isPrefix (.inl rfl) begins, fun line member => ?_⟩
    obtain ⟨a, b, place, begins⟩ := behind line member
    obtain ⟨rest, rfl⟩ := quoted a b place
    exact isIdle_of_isPrefix (.inr rfl) begins

/-- The properties that a form passes on are read from the fields and bind nothing. -/
theorem isIdle_submittedProperties (fit : Field.FitTogether fields) (options : Options) :
    ∀ line ∈ split '\n' (submittedProperties fields options), IsIdle line := by
  cases fields with
  | nil =>
    intro line member
    rw [List.mem_singleton.1 member]
    exact ⟨rfl, rfl, rfl, rfl, rfl, rfl⟩
  | cons f rest =>
    have pieces : (f :: rest).map (fun g => propertyLine g options.uuid) ≠ [] :=
      List.cons_ne_nil _ _
    intro line member
    have inside : line ∈ byLine (fun line => [line]) (submittedProperties (f :: rest) options) := by
      rwa [byLine_singleton]
    have cut : byLine (fun line => [line]) (submittedProperties (f :: rest) options) =
        ((f :: rest).map fun g => propertyLine g options.uuid).flatMap
          (byLine fun line => [line]) := byLine_intercalate _ pieces
    rw [cut] at inside
    obtain ⟨piece, listed, within⟩ := List.mem_flatMap.1 inside
    obtain ⟨g, given, rfl⟩ := List.mem_map.1 listed
    rw [byLine_singleton] at within
    exact isIdle_propertyLine (fit.wellFormed g given).identifier options.uuid line within

/-! ## Above the markup -/

/-- The lines of a page above the markup that it returns. -/
def aboveMarkup (page : Text) : List Text :=
  (split '\n' page).takeWhile fun line => (after? markupOpening line).isNone

theorem aboveMarkup_lines (front back : List Text)
    (above : ∀ line ∈ front.flatMap (split '\n'), after? markupOpening line = none) :
    aboveMarkup (lines (front ++ markupOpening :: back)) = front.flatMap (split '\n') := by
  unfold aboveMarkup
  rw [split_lines, List.flatMap_append, List.flatMap_cons, split_of_not_mem (by decide),
    List.append_assoc, List.takeWhile_append_of_pos (by simpa using above), List.append_assoc,
    List.singleton_append, List.takeWhile_cons_of_neg (by decide), List.append_nil]

/-- A line of a page's function that begins no function, stands above the markup and does not close
    the function. -/
structure IsAbove (line : Text) : Prop where
  oneLine : '\n' ∉ line
  silent : parameters? line = none
  markup : after? markupOpening line = none
  within : decide (line = closing []) = false

/-- The lines that bring the record into scope. -/
def recordLines (names : ModelNames) (options : Options) : List Text :=
  recordParameters ++ lookup names options ++ requireRecord names

theorem above_recordLines (titled : names.Titled) (options : Options) :
    ∀ line ∈ recordLines names options, IsAbove line := by
  have record := titled.camel.not_mem (c := '\n') rfl
  have model := titled.pascal.not_mem (c := '\n') rfl
  refine List.forall_mem_append.2 ⟨List.forall_mem_append.2 ⟨?_, ?_⟩, ?_⟩
  · unfold recordParameters
    simp only [List.forall_mem_cons]
    exact ⟨⟨by decide, rfl, rfl, rfl⟩, ⟨by decide, rfl, rfl, rfl⟩, ⟨by decide, rfl, rfl, rfl⟩,
      ⟨by decide, rfl, rfl, rfl⟩, ⟨by decide, rfl, rfl, rfl⟩, by simp⟩
  · unfold lookup
    split_ifs
    · simp only [List.forall_mem_cons]
      exact ⟨⟨by simp [record, model], rfl, rfl, rfl⟩, by simp⟩
    · simp only [List.forall_mem_cons]
      exact ⟨⟨by decide, rfl, rfl, rfl⟩, ⟨by decide, rfl, rfl, rfl⟩, ⟨by decide, rfl, rfl, rfl⟩,
        ⟨by decide, rfl, rfl, rfl⟩, ⟨by decide, rfl, rfl, rfl⟩, ⟨by decide, rfl, rfl, rfl⟩,
        ⟨by simp [record, model], rfl, rfl, rfl⟩, by simp⟩
  · unfold requireRecord
    simp only [List.forall_mem_cons]
    exact ⟨⟨by decide, rfl, rfl, rfl⟩, ⟨by simp [record, code], rfl, rfl, rfl⟩,
      ⟨by decide, rfl, rfl, rfl⟩, ⟨by decide, rfl, rfl, rfl⟩, ⟨by decide, rfl, rfl, rfl⟩, by simp⟩

theorem constants_recordLines (titled : names.Titled) (options : Options) :
    (recordLines names options).flatMap (constants []) =
      Route.keyNames options ++ named names.camel := by
  have record := constants_append (all_isWord_of_plain titled.camel) []
  have parameters : recordParameters.flatMap (constants []) = ["id".toList] := rfl
  have ended : (requireRecord names).flatMap (constants []) = [] := rfl
  have found (argument : Text) :
      constants [] ("  const " ++ names.camel ++ " = await get" ++ names.pascal ++ argument) =
        named names.camel := by
    rw [← record ("await get" ++ names.pascal ++ argument)]
    congr 1
    simp
  unfold recordLines lookup Route.keyNames
  rw [List.flatMap_append, List.flatMap_append, parameters, ended, List.append_nil]
  split_ifs
  · rw [List.flatMap_singleton, found "(id);"]
  · simp only [List.flatMap_cons, found "(numericId);"]
    exact congrArg (fun bound => "id".toList :: "numericId".toList :: bound) (List.append_nil _)

/-- The lines of a page's function from its first line on. -/
theorem ofLines_page {front below : List Text} {header s : Text} {own : List Text}
    (silent : Silent front) (outermost : indentation header = [])
    (begins : parameters? header = some s)
    (bound : boundNames 0 false [] (s ++ '\n' :: lines below) = own)
    (within : ∀ line ∈ below, decide (line = closing []) = false) :
    ofLines (front ++ header :: below) =
      (own ++ below.flatMap (constants [])) :: ofLines below := by
  have cut : below.takeWhile (· ≠ closing []) = below := by
    rw [List.takeWhile_eq_self_iff]
    intro line member
    simpa using within line member
  rw [ofLines_append silent, ofLines, begins]
  dsimp only
  rw [outermost, bound, cut]

/-- The names next to which the pages of one record bind the record. -/
def recordNames (options : Options) : List Text := "params" :: Route.keyNames options

/-- The names that the function of a page of one record binds. -/
def recordScope (names : ModelNames) (options : Options) : List Text :=
  recordNames options ++ named names.camel

/-- The first line of the function of a page of one record. -/
def recordHeader (lead : Text) (names : ModelNames) : Text := lead ++ names.pascal ++ code "Page(⟦"

/-- A page of one record binds the record in its function, of which the lines up to the markup are
    the parameters, the lookup and what stands behind it. -/
theorem ofLines_recordPage (titled : names.Titled) (options : Options) {front more : List Text}
    (lead word : Text) (silent : Silent front)
    (named : lead = "export default async function " ++ word) (letters : word.all isWord = true)
    (outermost : indentation (recordHeader lead names) = [])
    (within : ∀ line ∈ more, decide (line = closing []) = false)
    (idle : more.flatMap (constants []) = []) :
    ofLines (front ++ recordHeader lead names :: (recordLines names options ++ more)) =
      recordScope names options :: ofLines more := by
  have above := above_recordLines titled options
  have begins : parameters? (recordHeader lead names) = some (code "⟦") := by
    have name : (word ++ names.pascal ++ "Page").all isWord = true := by
      rw [List.all_append, List.all_append, letters, all_isWord_of_plain titled.pascal]
      rfl
    have line : recordHeader lead names = "export default async function " ++
        (word ++ names.pascal ++ "Page" ++ '(' :: code "⟦") := by
      simp [recordHeader, named, code]
    rw [line]
    exact parameters?_eq name rfl rfl
  have bound : boundNames 0 false []
      (code "⟦" ++ '\n' :: lines (recordLines names options ++ more)) = ["params".toList] := by
    have parameters : boundNames 0 false [] (code "⟦" ++ '\n' :: lines recordParameters) =
        ["params".toList] := by decide
    have text : code "⟦" ++ '\n' :: lines (recordLines names options ++ more) =
        (code "⟦" ++ '\n' :: lines recordParameters) ++
          lines (lookup names options ++ requireRecord names ++ more) := by
      simp [recordLines, lines]
    rw [text, boundNames_of_closes (by decide), parameters]
  rw [ofLines_page silent outermost begins bound, List.flatMap_append, idle, List.append_nil,
    constants_recordLines titled, ofLines_append fun line member => (above line member).silent]
  · rfl
  · exact List.forall_mem_append.2 ⟨fun line member => (above line member).within, within⟩

/-- The lines above the function of the page that shows a record. -/
def detailFront (names : ModelNames) : List Text := [
  code "import ⟦ notFound ⟧ from \"next/navigation\";",
  "import Link from \"next/link\";",
  code "import ⟦ get" ++ names.pascal ++ code " ⟧ from \"../actions\";",
  ""]

theorem above_detailFront (titled : names.Titled) :
    ∀ line ∈ detailFront names, IsAbove line := by
  have model := titled.pascal.not_mem (c := '\n') rfl
  unfold detailFront
  simp only [List.forall_mem_cons]
  exact ⟨⟨by decide, rfl, rfl, rfl⟩, ⟨by decide, rfl, rfl, rfl⟩,
    ⟨by simp [model, code], rfl, rfl, rfl⟩, ⟨by decide, rfl, rfl, rfl⟩, by simp⟩

/-- The first line of a page's function stands on one line above the markup. -/
theorem above_recordHeader (titled : names.Titled) (lead : Text) (oneLine : '\n' ∉ lead)
    (markup : after? markupOpening (recordHeader lead names) = none) :
    ∀ line ∈ [recordHeader lead names], '\n' ∉ line ∧ after? markupOpening line = none := by
  have model := titled.pascal.not_mem (c := '\n') rfl
  rw [List.forall_mem_singleton]
  exact ⟨by simp [recordHeader, oneLine, model, code], markup⟩

theorem ofLines_detail (titled : names.Titled) (fields : List Field) (options : Options) :
    ofLines (aboveMarkup (detail names fields options)) = [recordScope names options] := by
  have front := above_detailFront titled
  have record := above_recordLines titled options
  obtain ⟨back, text⟩ : ∃ back, detail names fields options =
      lines (detailFront names ++ recordHeader "export default async function " names ::
        (recordLines names options ++ []) ++ markupOpening :: back) := by
    unfold detail recordLines detailFront
    simp only [List.append_assoc, List.cons_append, List.nil_append]
    exact ⟨_, rfl⟩
  have above : ∀ line ∈ detailFront names ++
      ([recordHeader "export default async function " names] ++ (recordLines names options ++ [])),
      '\n' ∉ line ∧ after? markupOpening line = none := by
    refine List.forall_mem_append.2 ⟨fun line member => ⟨(front line member).oneLine,
      (front line member).markup⟩, List.forall_mem_append.2
      ⟨above_recordHeader titled _ (by decide) rfl, fun line member => ?_⟩⟩
    rw [List.append_nil] at member
    exact ⟨(record line member).oneLine, (record line member).markup⟩
  have kept := flatMap_split fun line member => (above line member).1
  rw [List.singleton_append] at kept
  rw [text, aboveMarkup_lines, kept]
  · exact ofLines_recordPage titled options _ [] (fun line member => (front line member).silent)
      (List.append_nil _).symm rfl rfl (by simp) rfl
  · rw [kept]
    exact fun line member => (above line member).2

/-- The lines of the function that passes the form's values on, up to the values. -/
def submissionFront (names : ModelNames) (options : Options) : List Text := [
  "    \"use server\";",
  "",
  "    await update" ++ names.pascal ++ "(" ++ (if options.uuid then "id" else "numericId" : Text)
    ++ code ", ⟦"]

/-- The lines of that function behind the values. -/
def submissionBack (names : ModelNames) : List Text := [
  code "    ⟧);",
  "",
  "    redirect(\"/" ++ names.kebabPlural ++ "\");"]

/-- The lines above the function of the page that edits a record. -/
def editFront (names : ModelNames) : List Text := [
  code "import ⟦ notFound, redirect ⟧ from \"next/navigation\";",
  "import Link from \"next/link\";",
  code "import ⟦ get" ++ names.pascal ++ ", update" ++ names.pascal
    ++ code " ⟧ from \"../../actions\";",
  ""]

/-- The first line of the function that passes the form's values on. -/
def submissionHeader : Text := code "  async function handleUpdate(formData: FormData) ⟦"

/-- The lines of that function with the given lines of values, down to the markup. -/
def submissionLines (names : ModelNames) (options : Options) (values : List Text) : List Text :=
  submissionHeader :: (submissionFront names options ++ (values ++ (submissionBack names ++
    [closing "  ", ""])))

theorem edit_eq (names : ModelNames) (fields : List Field) (options : Options) :
    ∃ back, edit names fields options =
      lines (editFront names ++ recordHeader "export default async function Edit" names ::
        (recordLines names options ++ submissionLines names options
          [submittedProperties fields options]) ++ markupOpening :: back) := by
  unfold edit recordLines editFront submissionLines submissionFront submissionBack
  simp only [List.append_assoc, List.cons_append, List.nil_append]
  exact ⟨_, rfl⟩

theorem isIdle_submissionFront (names : ModelNames) (options : Options) :
    ∀ line ∈ submissionFront names options, IsIdle line := by
  unfold submissionFront
  simp only [List.forall_mem_cons]
  exact ⟨⟨rfl, rfl, rfl, rfl, rfl, rfl⟩, ⟨rfl, rfl, rfl, rfl, rfl, rfl⟩,
    ⟨rfl, rfl, rfl, rfl, rfl, rfl⟩, by simp⟩

theorem isIdle_submissionBack (names : ModelNames) :
    ∀ line ∈ submissionBack names, IsIdle line := by
  unfold submissionBack
  simp only [List.forall_mem_cons]
  exact ⟨⟨rfl, rfl, rfl, rfl, rfl, rfl⟩, ⟨rfl, rfl, rfl, rfl, rfl, rfl⟩,
    ⟨rfl, rfl, rfl, rfl, rfl, rfl⟩, by simp⟩

/-- The function that passes the form's values on binds the form's data only. -/
theorem ofLines_submission {values : List Text} (idle : ∀ line ∈ values, IsIdle line)
    (names : ModelNames) (options : Options) :
    ofLines (submissionLines names options values) = [["formData".toList]] := by
  have inner : ∀ line ∈ submissionFront names options ++ (values ++ submissionBack names),
      IsIdle line :=
    List.forall_mem_append.2 ⟨isIdle_submissionFront names options,
      List.forall_mem_append.2 ⟨idle, isIdle_submissionBack names⟩⟩
  have text : submissionLines names options values = submissionHeader ::
      (submissionFront names options ++ (values ++ submissionBack names) ++
        closing "  " :: [[]]) := by
    simp [submissionLines]
  have header : parameters? submissionHeader = some (code "formData: FormData) ⟦") := by decide
  have outermost : indentation submissionHeader = "  " := by decide
  have bound : boundNames 0 false [] (code "formData: FormData) ⟦") = ["formData".toList] := by
    decide
  have cut : (submissionFront names options ++ (values ++ submissionBack names) ++
      closing "  " :: [[]]).takeWhile (· ≠ closing "  ") =
        submissionFront names options ++ (values ++ submissionBack names) := by
    rw [List.takeWhile_append_of_pos, List.takeWhile_cons_of_neg (by simp), List.append_nil]
    intro line member
    simpa using (inner line member).innerEnd
  have nothing : (submissionFront names options ++ (values ++ submissionBack names)).flatMap
      (constants "  ") = [] :=
    List.flatMap_eq_nil_iff.2 fun line member => (inner line member).inner
  rw [text, ofLines, header]
  dsimp only
  rw [outermost, boundNames_of_closes (by decide), bound, cut, nothing,
    ofLines_append fun line member => (inner line member).silent]
  rfl

theorem split_submissionLines (titled : names.Titled) (options : Options) (values : Text) :
    (submissionLines names options [values]).flatMap (split '\n') =
      submissionLines names options (split '\n' values) := by
  have model := titled.pascal.not_mem (c := '\n') rfl
  have path := titled.not_mem_path (c := '\n') rfl (by decide)
  have front : (submissionFront names options).flatMap (split '\n') =
      submissionFront names options := by
    refine flatMap_split ?_
    unfold submissionFront
    simp only [List.forall_mem_cons]
    refine ⟨by decide, by decide, ?_, by simp⟩
    split_ifs <;> simp [model, code]
  have back : (submissionBack names).flatMap (split '\n') = submissionBack names := by
    refine flatMap_split ?_
    unfold submissionBack
    simp only [List.forall_mem_cons]
    exact ⟨by decide, by decide, by simp [path], by simp⟩
  have ended : [closing "  ", ""].flatMap (split '\n') = [closing "  ", ""] :=
    flatMap_split (by decide)
  have header : split '\n' submissionHeader = [submissionHeader] := split_of_not_mem (by decide)
  unfold submissionLines
  rw [List.flatMap_cons, header, List.flatMap_append, front, List.flatMap_append,
    List.flatMap_singleton, List.flatMap_append, back, ended, List.singleton_append]

/-- The lines of the function that passes the values on declare nothing in the function of the
    page, which they do not close. -/
theorem outer_submissionLines {values : List Text} (idle : ∀ line ∈ values, IsIdle line)
    (names : ModelNames) (options : Options) :
    ∀ line ∈ submissionLines names options values, constants [] line = [] ∧
      decide (line = closing []) = false ∧ after? markupOpening line = none := by
  have outer {ls : List Text} (idle : ∀ line ∈ ls, IsIdle line) : ∀ line ∈ ls,
      constants [] line = [] ∧ decide (line = closing []) = false ∧
        after? markupOpening line = none :=
    fun line member => ⟨(idle line member).outer, (idle line member).outerEnd,
      (idle line member).markup⟩
  have ended : ∀ line ∈ [closing "  ", ""], constants [] line = [] ∧
      decide (line = closing []) = false ∧ after? markupOpening line = none := by
    decide
  unfold submissionLines
  refine List.forall_mem_cons.2 ⟨⟨rfl, rfl, rfl⟩, ?_⟩
  exact List.forall_mem_append.2 ⟨outer (isIdle_submissionFront names options),
    List.forall_mem_append.2 ⟨outer idle,
      List.forall_mem_append.2 ⟨outer (isIdle_submissionBack names), ended⟩⟩⟩

theorem above_editFront (titled : names.Titled) : ∀ line ∈ editFront names, IsAbove line := by
  have model := titled.pascal.not_mem (c := '\n') rfl
  unfold editFront
  simp only [List.forall_mem_cons]
  exact ⟨⟨by decide, rfl, rfl, rfl⟩, ⟨by decide, rfl, rfl, rfl⟩,
    ⟨by simp [model, code], rfl, rfl, rfl⟩, ⟨by decide, rfl, rfl, rfl⟩, by simp⟩

/-- The page that edits a record binds the record in its function, and the form's data in the
    function to which the form is passed. -/
theorem ofLines_edit (titled : names.Titled) (fit : Field.FitTogether fields) (options : Options) :
    ofLines (aboveMarkup (edit names fields options)) =
      [recordScope names options, ["formData".toList]] := by
  have front := above_editFront titled
  have record := above_recordLines titled options
  have header := above_recordHeader titled "export default async function Edit" (by decide) rfl
  have values := isIdle_submittedProperties fit options
  have outer := outer_submissionLines values names options
  obtain ⟨back, text⟩ := edit_eq names fields options
  have kept : (editFront names ++ recordHeader "export default async function Edit" names ::
      (recordLines names options ++ submissionLines names options
        [submittedProperties fields options])).flatMap (split '\n') =
      editFront names ++ ([recordHeader "export default async function Edit" names] ++
        (recordLines names options ++ submissionLines names options
          (split '\n' (submittedProperties fields options)))) := by
    rw [List.flatMap_append, flatMap_split fun line member => (front line member).oneLine,
      List.flatMap_cons, split_of_not_mem (header _ (by simp)).1, List.flatMap_append,
      flatMap_split fun line member => (record line member).oneLine,
      split_submissionLines titled]
  rw [text, aboveMarkup_lines, kept]
  · refine (ofLines_recordPage titled options _ "Edit"
      (fun line member => (front line member).silent) (by decide) (by decide) rfl
      (fun line member => (outer line member).2.1)
      (List.flatMap_eq_nil_iff.2 fun line member => (outer line member).1)).trans ?_
    rw [ofLines_submission values]
  · rw [kept]
    exact List.forall_mem_append.2 ⟨fun line member => (front line member).markup,
      List.forall_mem_append.2 ⟨fun line member => (header line member).2,
        List.forall_mem_append.2 ⟨fun line member => (record line member).markup,
          fun line member => (outer line member).2.2⟩⟩⟩

theorem wellBound_recordNames (options : Options) :
    WellBound (recordNames options) ∧ [] ∉ recordNames options := by
  unfold recordNames Route.keyNames
  split_ifs <;> decide

theorem wellBound_recordScope (names : ModelNames) (options : Options) :
    WellBound (recordScope names options) ↔
      names.camel ∉ recordNames options ∧ names.camel ∉ reservedWords :=
  wellBound_append_named (wellBound_recordNames options).1 (wellBound_recordNames options).2 _

theorem wellBound_formData : WellBound ["formData"] := by decide

end Page

/-! ## Handlers and pages of a model -/

open Scope

/-- For an accepted name without a line feed, the handlers for one row and the pages of one record
    bind each name once and no reserved word, exactly if the name of the record is none of their own
    names and not reserved. -/
theorem wellBound_iff {name : Text} (line : '\n' ∉ name) (valid : checkModelName name = .ok ())
    (s : Route.Surroundings) {tokens : List Text} {fields : List Field}
    (read : Field.ofTokens tokens s.options.noTimestamps = .ok fields) :
    let names := ModelNames.ofName name
    ((∀ scope ∈ ofLines (Route.belowImports (Route.member s names)), WellBound scope) ↔
      names.camel ∉ Route.memberNames ∧ names.camel ∉ reservedWords) ∧
    ((∀ scope ∈ ofLines (Page.aboveMarkup (Page.detail names fields s.options)),
        WellBound scope) ↔
      names.camel ∉ Page.recordNames s.options ∧ names.camel ∉ reservedWords) ∧
    ((∀ scope ∈ ofLines (Page.aboveMarkup (Page.edit names fields s.options)),
        WellBound scope) ↔
      names.camel ∉ Page.recordNames s.options ∧ names.camel ∉ reservedWords) := by
  have spelled := plain_of_checkModelName line valid
  have plain := ModelNames.plain_ofName spelled
  have titled := ModelNames.titled_ofName spelled
  refine ⟨Route.wellBound_member_iff plain titled s, ?_, ?_⟩
  · rw [Page.ofLines_detail titled, List.forall_mem_singleton]
    exact Page.wellBound_recordScope _ _
  · rw [Page.ofLines_edit titled (Field.fitTogether_of_ofTokens read), List.forall_mem_cons,
      List.forall_mem_singleton, Page.wellBound_recordScope]
    exact and_iff_left Page.wellBound_formData

/-- The handlers and the pages for posts bind each name once and no reserved word. -/
theorem posts_wellBound :
    let names := ModelNames.ofName "post"
    let s : Route.Surroundings :=
      { dbModule := "@/db", schemaModule := "@/db/schema", dialect := .sqlite, options := {} }
    let fields : List Field := [{ name := "title" }]
    checkModelName "post" = .ok () ∧ Field.ofTokens ["title"] false = .ok fields ∧
      (∀ scope ∈ ofLines (Route.belowImports (Route.member s names)), WellBound scope) ∧
      (∀ scope ∈ ofLines (Page.aboveMarkup (Page.detail names fields s.options)),
        WellBound scope) ∧
      ∀ scope ∈ ofLines (Page.aboveMarkup (Page.edit names fields s.options)),
        WellBound scope := by
  have valid : checkModelName "post" = .ok () := by decide
  have read : Field.ofTokens ["title"] false = .ok [{ name := "title" }] := by decide +kernel
  obtain ⟨handlers, detail, edit⟩ := wellBound_iff (by decide) valid
    { dbModule := "@/db", schemaModule := "@/db/schema", dialect := .sqlite, options := {} } read
  exact ⟨valid, read, handlers.2 (by decide), detail.2 (by decide), edit.2 (by decide)⟩

/-- The names `id` and `class` are accepted. The handlers bind the key and a row named `id` under
    one name, and the page that shows a row named `class` binds a reserved word. -/
theorem id_and_class_not_wellBound :
    let s : Route.Surroundings :=
      { dbModule := "@/db", schemaModule := "@/db/schema", dialect := .sqlite, options := {} }
    checkModelName "id" = .ok () ∧
      ¬ (∀ scope ∈ ofLines (Route.belowImports (Route.member s (.ofName "id"))),
        WellBound scope) ∧
      checkModelName "class" = .ok () ∧
      ¬ ∀ scope ∈ ofLines (Page.aboveMarkup (Page.detail (.ofName "class") [] {})),
        WellBound scope := by
  have valid : checkModelName "id" = .ok () := by decide
  have valid' : checkModelName "class" = .ok () := by decide
  have spelled := plain_of_checkModelName (by decide) valid
  have titled := ModelNames.titled_ofName (plain_of_checkModelName (by decide) valid')
  refine ⟨valid, ?_, valid', ?_⟩
  · rw [Route.wellBound_member_iff (ModelNames.plain_ofName spelled)
      (ModelNames.titled_ofName spelled)]
    exact fun apart => apart.1 (by decide)
  · rw [Page.ofLines_detail titled, List.forall_mem_singleton, Page.wellBound_recordScope]
    exact fun apart => apart.2 (by decide)

end Groundwork
