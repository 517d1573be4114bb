import Groundwork.Form.Value
import Groundwork.Proofs.Field.Parsed
import Groundwork.Proofs.Schema.Definition
import Groundwork.Proofs.Text.Reading

/-!
# Names in forms

A form uses the name of a field in two ways: the submitted value is read under the name, and the
control of the field has the name. Both uses quote it, and what stands before the quotation tells
which use it is (`Use.lead`). Reading the names back line by line, the expression of a field reads
the field by its own name only (`uses_submitted`), and the control of a field has the field's name
and no other (`byLine_widget`).
-/

namespace Groundwork.Form

open Text (code quotations quotations_of_not_mem quotations_append byLine byLine_of_not_mem
  byLine_intercalate byLine_eq_nil endsWith endsWith_iff)

/-- What a form does with a name: it reads the value that was submitted under it, or it gives the
    name to a control. -/
inductive Use where
  | read
  | control
  deriving DecidableEq, Repr

/-- What stands before a name that is used. -/
def Use.lead : Use → Text
  | .read => "formData.get("
  | .control => " name="

/-- The use of a quoted text, by what stands before it. -/
def use? (before : Text) : Option Use :=
  [Use.read, .control].find? fun use => endsWith use.lead before

/-- The uses of names in a line. -/
def uses (line : Text) : List (Use × Text) :=
  (quotations line).filterMap fun quotation =>
    (use? quotation.1).map fun use => (use, quotation.2)

/-- The names that a text has for one use. -/
def namesFor (use : Use) (source : Text) : List Text :=
  ((byLine uses source).filter fun found => found.1 = use).map Prod.snd

variable {f : Field} {s t : Text}

theorem use?_lead (s : Text) (use : Use) : use? (s ++ use.lead) = some use := by
  have ends : endsWith use.lead (s ++ use.lead) = true :=
    endsWith_iff.2 (List.suffix_append s use.lead)
  unfold use?
  cases use with
  | read => rw [List.find?_cons, ends]
  | control =>
    have other : endsWith Use.read.lead (s ++ Use.control.lead) = false :=
      Text.not_endsWith_append s (by decide)
    rw [List.find?_cons, other, List.find?_cons, ends]

/-- The end of the text is the end of no lead. -/
def Apart (t : Text) : Prop := ∀ use ∈ [Use.read, .control], ¬ t <:+ use.lead ∧ ¬ use.lead <:+ t

instance (t : Text) : Decidable (Apart t) :=
  List.decidableBAll (fun use : Use => ¬ t <:+ use.lead ∧ ¬ use.lead <:+ t) _

theorem use?_eq_none (s : Text) (apart : Apart t) : use? (s ++ t) = none := by
  unfold use?
  rw [List.find?_eq_none]
  intro use member
  simp [Text.not_endsWith_append s (apart use member)]

theorem uses_of_not_mem (noQuote : '"' ∉ s) : uses s = [] := by
  unfold uses
  rw [quotations_of_not_mem noQuote]
  rfl

theorem uses_append (before quoted rest : Text) (outside : '"' ∉ before) (inside : '"' ∉ quoted) :
    uses (before ++ '"' :: (quoted ++ '"' :: rest)) =
      ((use? before).map fun use => (use, quoted)).toList ++ uses rest := by
  unfold uses
  rw [quotations_append _ _ rest outside inside, List.filterMap_cons]
  cases use? before <;> rfl

/-- A quoted text that is not used adds nothing. -/
theorem uses_skip (s t quoted rest : Text) (apart : Apart t) (outside : '"' ∉ s ++ t)
    (inside : '"' ∉ quoted) : uses (s ++ (t ++ '"' :: (quoted ++ '"' :: rest))) = uses rest := by
  rw [← List.append_assoc, uses_append _ _ _ outside inside, use?_eq_none s apart]
  rfl

/-- Where a text reads names first and then gives them to controls, both lists of names are
    known. -/
theorem namesFor_of_uses {page : Text} {object : List (Use × Text)} {names : List Text}
    (found : byLine uses page = object ++ names.map fun name => (.control, name))
    (reads : ∀ use, use ∈ object ↔ use.1 = .read ∧ use.2 ∈ names) :
    (∀ name, name ∈ namesFor .read page ↔ name ∈ names) ∧ namesFor .control page = names := by
  have noControl : object.filter (fun found => found.1 = Use.control) = [] := by
    rw [List.filter_eq_nil_iff]
    intro use member
    simp [((reads use).1 member).1]
  have all : (names.map fun name => (Use.control, name)).filter
      (fun found => found.1 = Use.control) = names.map fun name => (Use.control, name) := by
    rw [List.filter_eq_self]
    intro use member
    obtain ⟨name, -, rfl⟩ := List.mem_map.1 member
    rfl
  unfold namesFor
  rw [found]
  constructor
  · intro name
    simp only [List.mem_map, List.mem_filter, List.mem_append, reads, decide_eq_true_eq]
    constructor
    · rintro ⟨⟨use, quoted⟩, ⟨⟨-, given⟩ | ⟨other, -, same⟩, read⟩, rfl⟩
      · exact given
      · obtain ⟨rfl, rfl⟩ := Prod.mk.inj same
        cases read
    · exact fun given => ⟨(.read, name), ⟨.inl ⟨rfl, given⟩, rfl⟩, rfl⟩
  · rw [List.filter_append, noControl, all, List.nil_append, List.map_map]
    simp [Function.comp_def]

/-! ## Values -/

/-- What reads the value that was submitted for a field. -/
def submittedEntry (f : Field) : Text := "formData.get(\"" ++ f.name ++ "\")"

theorem uses_entry (name : '"' ∉ f.name) (outside : '"' ∉ s) (rest : Text) :
    uses (s ++ (submittedEntry f ++ rest)) = (.read, f.name) :: uses (')' :: rest) := by
  have outer : '"' ∉ s ++ Use.read.lead := by
    rw [List.mem_append]
    exact fun member => member.elim outside (by decide)
  have cut := uses_append _ _ (')' :: rest) outer name
  rw [use?_lead] at cut
  unfold submittedEntry
  unfold Use.lead at cut
  simpa using cut

/-- What converts the text that was submitted for a field: the text before the entry, and the text
    after it. -/
def conversion (f : Field) (uuid : Bool) : Text × Text :=
  if f.kind.isInteger || (f.isReference && !uuid) then ("parseInt(", " as string" ++ ")")
  else if f.kind = .float then ("parseFloat(", " as string" ++ ")")
  else if f.kind.isMoment || f.kind = .date then ("new Date(", " as string" ++ ")")
  else if f.kind = .json then ("JSON.parse(", " as string" ++ ")")
  else ([], " as string")

/-- Apart from check boxes, an optional value is asked for before it is read. -/
theorem submitted_eq (uuid : Bool) (kind : f.kind.isBoolean = false) :
    submitted f uuid =
      if f.nullable then
        submittedEntry f ++ (" ? " ++ ((conversion f uuid).1 ++
          (submittedEntry f ++ ((conversion f uuid).2 ++ " : null"))))
      else (conversion f uuid).1 ++ (submittedEntry f ++ (conversion f uuid).2) := by
  have join (p q : Text) : (if f.nullable then
      submittedEntry f ++ " ? " ++ (p ++ (submittedEntry f ++ " as string") ++ q) ++ " : null"
      else p ++ (submittedEntry f ++ " as string") ++ q) =
        if f.nullable then submittedEntry f ++ (" ? " ++ (p ++
          (submittedEntry f ++ (" as string" ++ q ++ " : null"))))
        else p ++ (submittedEntry f ++ (" as string" ++ q)) := by
    simp only [List.append_assoc]
  unfold submitted conversion
  simp only [kind, Bool.false_eq_true, if_false]
  by_cases integer : (f.kind.isInteger || (f.isReference && !uuid)) = true
  · simp only [if_pos integer]
    exact join "parseInt(" ")"
  simp only [if_neg integer]
  by_cases float : f.kind = .float
  · simp only [if_pos float]
    exact join "parseFloat(" ")"
  simp only [if_neg float]
  by_cases moment : (f.kind.isMoment || f.kind = .date) = true
  · simp only [if_pos moment]
    exact join "new Date(" ")"
  simp only [if_neg moment]
  by_cases json : f.kind = .json
  · simp only [if_pos json]
    exact join "JSON.parse(" ")"
  · simp only [if_neg json]
    have plain := join [] []
    simp only [List.append_nil, List.nil_append] at plain
    exact plain

/-- The text around the entry quotes nothing and stays in its line. -/
theorem not_mem_conversion {mark : Char} (isMark : mark = '"' ∨ mark = '\n') (f : Field)
    (uuid : Bool) : mark ∉ (conversion f uuid).1 ∧ mark ∉ (conversion f uuid).2 := by
  unfold conversion
  rcases isMark with rfl | rfl
  · split_ifs <;> decide
  · split_ifs <;> decide

/-- An expression that reads a field reads it by its own name: twice if it asks for an empty value
    first, else once. -/
theorem uses_submitted (name : '"' ∉ f.name) (uuid : Bool) (s rest : Text) (outside : '"' ∉ s)
    (after : '"' ∉ rest) :
    ∃ n, uses (s ++ (submitted f uuid ++ rest)) = List.replicate (n + 1) (.read, f.name) := by
  cases boolean : f.kind.isBoolean with
  | true =>
    have isOn {r : Text} (tail : '"' ∉ r) :
        uses (s ++ (submittedEntry f ++ (" === \"on\"" ++ r))) = [(.read, f.name)] := by
      have quoted : uses (')' :: (" === \"on\"" ++ r)) = [] := by
        have cut := uses_skip [')'] " === " "on" r (by decide) (by decide) (by decide)
        rw [uses_of_not_mem tail] at cut
        simpa using cut
      rw [uses_entry name outside, quoted]
    refine ⟨0, ?_⟩
    unfold submitted
    simp only [boolean, if_true]
    cases f.nullable with
    | true =>
      have read := isOn (r := " ? true : null" ++ rest) (by simp [after])
      unfold submittedEntry at read
      simpa using read
    | false =>
      have read := isOn after
      unfold submittedEntry at read
      simpa using read
  | false =>
    obtain ⟨before, behind⟩ := not_mem_conversion (.inl rfl) f uuid
    rw [submitted_eq uuid boolean]
    cases f.nullable with
    | true =>
      refine ⟨1, ?_⟩
      simp only [if_true, List.append_assoc]
      rw [uses_entry name outside]
      have last : uses (')' :: ((conversion f uuid).2 ++ (" : null" ++ rest))) = [] :=
        uses_of_not_mem (by simp [behind, after])
      have inner := uses_entry name (s := ')' :: (" ? " ++ (conversion f uuid).1))
        (by simp [before]) ((conversion f uuid).2 ++ (" : null" ++ rest))
      rw [last] at inner
      simpa using inner
    | false =>
      refine ⟨0, ?_⟩
      simp only [Bool.false_eq_true, if_false, List.append_assoc]
      have last : uses (')' :: ((conversion f uuid).2 ++ rest)) = [] :=
        uses_of_not_mem (by simp [behind, after])
      have only := uses_entry name (s := s ++ (conversion f uuid).1) (by simp [outside, before])
        ((conversion f uuid).2 ++ rest)
      rw [last] at only
      simpa using only

/-! ## Controls -/

/-- The texts of a field can stand in a form: its name is plain, and its values have neither
    quotation marks nor line feeds. -/
structure Presentable (f : Field) : Prop where
  plain : Text.Plain f.name
  nonempty : f.name ≠ []
  choices : ∀ value ∈ f.choiceList, '\n' ∉ value ∧ '"' ∉ value

variable {item? : Option Text} {early late type : Text}

theorem byLine_block {α : Type} (read : Text → List α) {ls : List Text} (nonempty : ls ≠ []) :
    byLine read (block ls) = ls.flatMap (byLine read) :=
  byLine_intercalate read nonempty

/-- A line whose only quoted text is not used. -/
theorem byLine_skip (s t quoted rest : Text) (apart : Apart t) (outside : '"' ∉ s ++ t)
    (inside : '"' ∉ quoted) (line : '\n' ∉ s ++ t ++ quoted) (lineAfter : '\n' ∉ rest)
    (after : uses rest = []) : byLine uses (s ++ (t ++ '"' :: (quoted ++ '"' :: rest))) = [] := by
  have whole : '\n' ∉ s ++ (t ++ '"' :: (quoted ++ '"' :: rest)) := by
    simp only [List.mem_append, not_or] at line
    simp [line, lineAfter]
  rw [byLine_of_not_mem whole, uses_skip _ _ _ _ apart outside inside, after]

theorem byLine_labelLine (plain : Text.Plain f.name) {rest : Text} (line : '\n' ∉ rest)
    (after : uses rest = []) :
    byLine uses ("          <label htmlFor=\"" ++ (f.name ++ '"' :: rest)) = [] :=
  byLine_skip [] "          <label htmlFor=" f.name rest (by decide) (by decide)
    (plain.not_mem rfl) (by simp [plain.not_mem (c := '\n') rfl]) line after

/-- The spelling of a name for headings quotes nothing, on any line. -/
theorem byLine_headingLine (plain : Text.Plain f.name) :
    byLine uses ("            " ++ Naming.pascal f.name) = [] :=
  byLine_eq_nil (fun _ => uses_of_not_mem)
    (by simp [(Naming.Plain.pascal plain).not_mem (c := '"') rfl])

theorem byLine_label (plain : Text.Plain f.name) : byLine uses (label f) = [] := by
  have shown := (Naming.Plain.pascal plain).not_mem (c := '"') rfl
  have shownFeed := (Naming.Plain.pascal plain).not_mem (c := '\n') rfl
  have opening : byLine uses ("          <label htmlFor=\"" ++ f.name
      ++ "\" className=\"block text-sm font-medium text-gray-700\">") = [] := by
    rw [List.append_assoc, String.toList_ofList, String.toList_ofList]
    exact byLine_labelLine plain (by decide) (by decide +kernel)
  have text : byLine uses ("            " ++ Naming.pascal f.name ++
      (if f.nullable then " <span className=\"text-gray-400\">(optional)</span>" else "" : Text)) =
      [] := by
    cases f.nullable with
    | true =>
      rw [if_pos rfl, String.toList_ofList, String.toList_ofList]
      exact byLine_skip ("            " ++ Naming.pascal f.name) " <span className="
        "text-gray-400" _ (by decide) (by simp [shown]) (by decide) (by simp [shownFeed])
        (by decide) (by decide)
    | false =>
      rw [if_neg Bool.false_ne_true, show ("" : Text) = [] from rfl, List.append_nil]
      exact byLine_headingLine plain
  unfold label
  rw [byLine_block _ (List.cons_ne_nil _ _)]
  simp only [List.flatMap_cons, List.flatMap_nil, opening, text]
  decide

theorem byLine_idLine (plain : Text.Plain f.name) :
    byLine uses ("            id=\"" ++ f.name ++ "\"") = [] :=
  byLine_skip [] "            id=" f.name [] (by decide) (by decide) (plain.not_mem rfl)
    (by simp [plain.not_mem (c := '\n') rfl]) (by decide) (by decide)

theorem byLine_nameLine (plain : Text.Plain f.name) :
    byLine uses ("            name=\"" ++ f.name ++ "\"") = [(.control, f.name)] := by
  have cut := uses_append ("           " ++ Use.control.lead) f.name [] (by decide)
    (plain.not_mem rfl)
  rw [use?_lead] at cut
  rw [byLine_of_not_mem (by simp [plain.not_mem (c := '\n') rfl])]
  exact cut

/-- The style classes of controls. -/
def styles : List Text :=
  [inputClasses, inputClasses ++ " resize-none", selectClasses, checkboxClasses]

theorem quotable_styles : ∀ classes ∈ styles, '"' ∉ classes ∧ '\n' ∉ classes := by
  -- A literal is rewritten as the list of its characters, which spares the kernel decoding it.
  have input : '"' ∉ inputClasses ∧ '\n' ∉ inputClasses := by
    unfold inputClasses
    rw [String.toList_ofList, String.toList_ofList]
    decide +kernel
  have select : '"' ∉ selectClasses ∧ '\n' ∉ selectClasses := by
    unfold selectClasses
    rw [String.toList_ofList, String.toList_ofList]
    decide +kernel
  have checkbox : '"' ∉ checkboxClasses ∧ '\n' ∉ checkboxClasses := by
    unfold checkboxClasses
    rw [String.toList_ofList]
    decide +kernel
  unfold styles
  simp only [List.forall_mem_cons, List.mem_append, not_or]
  exact ⟨input, ⟨⟨input.1, by decide⟩, ⟨input.2, by decide⟩⟩, select, checkbox, by simp⟩

/-- After the style of a control, only what follows it is read. -/
theorem byLine_classLine (classes : Text) (known : classes ∈ styles) {rest : Text}
    (line : '\n' ∉ rest) (after : uses rest = []) :
    byLine uses ("            className=\"" ++ (classes ++ '"' :: rest)) = [] :=
  have ⟨quote, feed⟩ := quotable_styles classes known
  byLine_skip [] "            className=" classes rest (by decide) (by decide) quote
    (by simp [feed]) line after

/-! ### Start values -/

theorem not_mem_recordValue {item : Text} (plain : Text.Plain f.name) (plainItem : Text.Plain item)
    (mark : Char) (other : Text.isPlain mark = false) (noDot : mark ≠ '.') :
    mark ∉ recordValue f item := by
  unfold recordValue
  simp [plain.not_mem other, plainItem.not_mem other, noDot]

theorem not_mem_startValue (plain : Text.Plain f.name) (item : ∀ x ∈ item?, Text.Plain x) :
    '\n' ∉ startValue f item? := by
  cases item? with
  | none => exact List.not_mem_nil
  | some x =>
    have record := not_mem_recordValue plain (item x rfl) '\n' rfl (by decide)
    unfold startValue defaultValue
    split_ifs <;> simp [record, code]

/-- The start value of a document quotes nothing. -/
theorem quoteless_startValue (json : f.kind = .json) (plain : Text.Plain f.name)
    (item : ∀ x ∈ item?, Text.Plain x) : '"' ∉ startValue f item? := by
  cases item? with
  | none => exact List.not_mem_nil
  | some x =>
    have record := not_mem_recordValue plain (item x rfl) '"' rfl (by decide)
    unfold startValue defaultValue
    simp only [json, if_true]
    simp [record, code]

/-- A start value quotes nothing but the empty text, and no use stands before it. -/
theorem uses_startValue (plain : Text.Plain f.name) (item : ∀ x ∈ item?, Text.Plain x) {rest : Text}
    (after : '"' ∉ rest) : uses (startValue f item? ++ rest) = [] := by
  cases item? with
  | none => exact uses_of_not_mem after
  | some x =>
    have record := not_mem_recordValue plain (item x rfl) '"' rfl (by decide)
    unfold startValue defaultValue
    split_ifs with json nullable
    · exact uses_of_not_mem (by simp [record, after, code])
    · have cut := uses_skip (code " defaultValue=⟦" ++ recordValue f x) " ?? " []
        (code "⟧" ++ rest) (by decide) (by simp [record, code]) (by simp)
      rw [uses_of_not_mem (s := code "⟧" ++ rest) (by simp [after, code])] at cut
      simpa [code] using cut
    · exact uses_of_not_mem (by simp [record, after, code])

theorem not_mem_required (f : Field) : '\n' ∉ required f ∧ '"' ∉ required f := by
  unfold required
  split_ifs <;> decide

/-! ### Widgets -/

theorem byLine_input (plain : Text.Plain f.name)
    (typed : byLine uses ("            type=\"" ++ type ++ "\"" ++ early) = [])
    (line : '\n' ∉ late) (after : uses (late ++ required f) = []) :
    byLine uses (input f type early late) = [(.control, f.name)] := by
  have style : byLine uses ("            className=\"" ++ inputClasses ++ "\"" ++ late
      ++ required f) = [] := by
    simp only [List.append_assoc]
    exact byLine_classLine _ (by simp only [styles, List.mem_cons, true_or])
      (by simp [line, (not_mem_required f).1]) after
  unfold input
  rw [byLine_block _ (List.cons_ne_nil _ _)]
  simp only [List.flatMap_cons, List.flatMap_nil, byLine_label plain, typed, byLine_idLine plain,
    byLine_nameLine plain, style]
  rfl

theorem byLine_textInput (plain : Text.Plain f.name) (item : ∀ x ∈ item?, Text.Plain x) :
    byLine uses (textInput f item?) = [(.control, f.name)] :=
  byLine_input plain (by decide +kernel) (not_mem_startValue plain item)
    (uses_startValue plain item (not_mem_required f).2)

theorem byLine_numberInput (plain : Text.Plain f.name) (item : ∀ x ∈ item?, Text.Plain x)
    {step : Option Text} (known : step ∈ ([none, some "any", some "0.01"] : List (Option Text))) :
    byLine uses (numberInput f item? step) = [(.control, f.name)] := by
  unfold numberInput
  refine byLine_input plain ?_ (not_mem_startValue plain item)
    (uses_startValue plain item (not_mem_required f).2)
  revert step
  decide +kernel

/-- The attribute that shows how a document is written. -/
def placeholder (f : Field) : Text := if f.kind = .json then code " placeholder=\"⟦⟧\"" else ""

/-- What follows the style of an input of several lines. -/
theorem silent_textAreaTail (plain : Text.Plain f.name) (item : ∀ x ∈ item?, Text.Plain x) :
    '\n' ∉ startValue f item? ++ (placeholder f ++ required f) ∧
      uses (startValue f item? ++ (placeholder f ++ required f)) = [] := by
  unfold placeholder
  constructor
  · rw [List.mem_append, List.mem_append]
    rintro (start | mark | mark)
    · exact not_mem_startValue plain item start
    · revert mark
      split_ifs <;> decide
    · exact (not_mem_required f).1 mark
  · by_cases json : f.kind = .json
    · rw [if_pos json]
      have cut := uses_skip (startValue f item?) " placeholder=" (code "⟦⟧") (required f)
        (by decide) (by simp [quoteless_startValue json plain item]) (by decide)
      rw [uses_of_not_mem (not_mem_required f).2] at cut
      exact cut
    · rw [if_neg json]
      exact uses_startValue plain item (not_mem_required f).2

theorem byLine_textArea (plain : Text.Plain f.name) (item : ∀ x ∈ item?, Text.Plain x) :
    byLine uses (textArea f item?) = [(.control, f.name)] := by
  have rows : byLine uses (code "            rows=⟦" ++ (if f.kind = .json then "6" else "4" : Text)
      ++ code "⟧") = [] := by
    split_ifs <;> decide +kernel
  have style : byLine uses ("            className=\"" ++ inputClasses ++ " resize-none\"" ++
      startValue f item? ++ placeholder f ++ required f) = [] := by
    obtain ⟨line, after⟩ := silent_textAreaTail plain item
    have read := byLine_classLine (inputClasses ++ " resize-none")
      (by simp only [styles, List.mem_cons, true_or, or_true]) line after
    simp only [List.append_assoc] at read ⊢
    exact read
  unfold placeholder at style
  unfold textArea
  dsimp only
  rw [byLine_block _ (List.cons_ne_nil _ _)]
  simp only [List.flatMap_cons, List.flatMap_nil, byLine_label plain, rows, byLine_idLine plain,
    byLine_nameLine plain, style]
  rfl

theorem byLine_dateInput (plain : Text.Plain f.name) (item : ∀ x ∈ item?, Text.Plain x)
    (typed : byLine uses ("            type=\"" ++ type ++ "\"" ++ ("" : Text)) = []) {part : Text}
    (line : '\n' ∉ part)
    (silent : ∀ s rest : Text, '"' ∉ s → '"' ∉ rest → uses (s ++ (part ++ rest)) = []) :
    byLine uses (dateInput f item? type part) = [(.control, f.name)] := by
  cases item? with
  | none =>
    exact byLine_input plain typed List.not_mem_nil (uses_of_not_mem (not_mem_required f).2)
  | some x =>
    have feed := not_mem_recordValue plain (item x rfl) '\n' rfl (by decide)
    have quote := not_mem_recordValue plain (item x rfl) '"' rfl (by decide)
    refine byLine_input plain typed ?_ ?_
    · simp [feed, line, code]
    · have start := silent (code " defaultValue=⟦" ++ recordValue f x ++ "?.toISOString().")
        (code "⟧" ++ required f) (by simp [quote, code]) (by simp [(not_mem_required f).2, code])
      simp only [List.append_assoc] at start ⊢
      exact start

/-- The day of a date is cut off before a quoted letter, which is no name. -/
theorem uses_dayPart (s rest : Text) (outside : '"' ∉ s) (after : '"' ∉ rest) :
    uses (s ++ (("split(\"T\")[0]" : Text) ++ rest)) = [] := by
  have cut := uses_skip s "split(" "T" (")[0]" ++ rest) (by decide) (by simp [outside])
    (by decide)
  rw [uses_of_not_mem (s := ")[0]" ++ rest) (by simp [after])] at cut
  exact cut

theorem byLine_checkbox (plain : Text.Plain f.name) (item : ∀ x ∈ item?, Text.Plain x) :
    byLine uses (checkbox f item?) = [(.control, f.name)] := by
  have opening : byLine uses ("          <label htmlFor=\"" ++ f.name
      ++ "\" className=\"text-sm font-medium text-gray-700\">") = [] := by
    rw [List.append_assoc, String.toList_ofList, String.toList_ofList]
    exact byLine_labelLine plain (by decide) (by decide +kernel)
  have style (start : Text) (feed : '\n' ∉ start) (quote : '"' ∉ start) :
      byLine uses ("            className=\"" ++ checkboxClasses ++ "\"" ++ start) = [] := by
    simp only [List.append_assoc]
    exact byLine_classLine _ (by simp only [styles, List.mem_cons, true_or, or_true]) feed
      (uses_of_not_mem quote)
  unfold checkbox
  rw [byLine_block _ (List.cons_ne_nil _ _)]
  simp only [List.flatMap_cons, List.flatMap_nil, byLine_idLine plain, byLine_nameLine plain,
    opening, byLine_headingLine plain]
  cases item? with
  | none =>
    dsimp only
    rw [style "" List.not_mem_nil List.not_mem_nil]
    rfl
  | some x =>
    have feed := not_mem_recordValue plain (item x rfl) '\n' rfl (by decide)
    have quote := not_mem_recordValue plain (item x rfl) '"' rfl (by decide)
    dsimp only
    rw [style]
    · rfl
    · split_ifs <;> simp [feed, code]
    · split_ifs <;> simp [quote, code]

theorem byLine_choice {value : Text} (line : '\n' ∉ value) (quote : '"' ∉ value) :
    byLine uses (choice value) = [] := by
  have shown (mark : Char) (low : mark.toNat < 65) (absent : mark ∉ value) :
      mark ∉ Naming.pascal value := fun member => absent (Naming.mem_pascal low member)
  have escaped (mark : Char) (other : mark ≠ '\\') (absent : mark ∉ value) :
      mark ∉ Schema.escaped value := fun member =>
    (Schema.mem_escaped member).elim absent other
  have rest : '"' ∉ ">" ++ Naming.pascal value ++ "</option>" := by
    simp [shown '"' (by decide) quote]
  have read := byLine_skip [] "            <option value=" (Schema.escaped value) _
    (by decide) (by decide) (escaped '"' (by decide) quote)
    (by simp [escaped '\n' (by decide) line]) (by simp [shown '\n' (by decide) line])
    (uses_of_not_mem rest)
  unfold choice
  simp only [List.append_assoc] at read ⊢
  exact read

theorem byLine_selection (presentable : Presentable f) (item : ∀ x ∈ item?, Text.Plain x) :
    byLine uses (selection f item?) = [(.control, f.name)] := by
  have plain := presentable.plain
  have style : byLine uses ("            className=\"" ++ selectClasses ++ "\"" ++
      startValue f item? ++ required f) = [] := by
    simp only [List.append_assoc]
    exact byLine_classLine _ (by simp only [styles, List.mem_cons, true_or, or_true])
      (by simp [not_mem_startValue plain item, (not_mem_required f).1])
      (uses_startValue plain item (not_mem_required f).2)
  have empty : byLine uses ("          >" ++ (if f.nullable then
      "\n            <option value=\"\">None</option>" else "" : Text)) = [] := by
    split_ifs <;> decide +kernel
  have choices : byLine uses (block (f.choiceList.map choice)) = [] := by
    cases given : f.choiceList.map choice with
    | nil => rfl
    | cons first rest =>
      rw [byLine_block _ (List.cons_ne_nil _ _), ← given, List.flatMap_map,
        List.flatMap_eq_nil_iff]
      intro value listed
      obtain ⟨line, quote⟩ := presentable.choices value listed
      exact byLine_choice line quote
  unfold selection
  rw [byLine_block _ (List.cons_ne_nil _ _)]
  simp only [List.flatMap_cons, List.flatMap_nil, byLine_label plain, byLine_idLine plain,
    byLine_nameLine plain, style, empty, choices]
  rfl

/-- The control of a field takes the field's name, and nothing else. -/
theorem byLine_widget (presentable : Presentable f) (item : ∀ x ∈ item?, Text.Plain x) :
    byLine uses (widget f item?) = [(.control, f.name)] := by
  have plain := presentable.plain
  unfold widget
  cases f.kind with
  | text | json => exact byLine_textArea plain item
  | boolean | bool => exact byLine_checkbox plain item
  | integer | int | bigint | float | decimal =>
    exact byLine_numberInput plain item (by decide)
  | date => exact byLine_dateInput plain item (by decide) (by decide) uses_dayPart
  | datetime | timestamp =>
    exact byLine_dateInput plain item (by decide) (by decide) fun _ _ outside after =>
      uses_of_not_mem (by simp [outside, after])
  | string | uuid | enum | references =>
    dsimp only
    split
    · exact byLine_selection presentable item
    · exact byLine_textInput plain item

end Groundwork.Form
