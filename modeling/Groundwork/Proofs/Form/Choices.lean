import Groundwork.Proofs.Field.Checked
import Groundwork.Proofs.Form.Controls
import Groundwork.Proofs.Naming.Accepted
import Groundwork.Proofs.Schema.Choices

/-!
# Values that a form offers

The control of an enum field offers an option for each value. The value of an option is an
attribute of markup: the text up to the next quotation mark, in which a backslash is a character
like any other. Values are escaped for string literals before they are written there, so an option
has what stands before the first quotation mark of the escaped value (`optionValues_selection`), and
the options are the values of the enum exactly if none of them is changed by escaping
(`options_choices_iff`).
-/

namespace Groundwork.Form

open Text (after? byLine byLine_of_not_mem byLine_eq_nil byLine_append_of_silent
  byLine_append_of_silent_front)
open Schema (escaped)

variable {f : Field} {item? : Option Text} {value s t : Text}

/-! ## Reading options -/

/-- The value of an attribute after its opening quotation mark. -/
def attributeValue? (s : Text) : Option Text :=
  if s.contains '"' then some (s.takeWhile (· ≠ '"')) else none

/-- The value of the option that a line opens. -/
def optionValue? (line : Text) : Option Text := do
  let s ← after? "<option value=\"" (line.dropWhile (· = ' '))
  attributeValue? s

/-- The values of the options in markup. -/
def optionValues (markup : Text) : List Text :=
  byLine (fun line => (optionValue? line).toList) markup

/-- A line opens an option only with an angle bracket. -/
theorem optionValue?_append (noTag : '<' ∉ s) (silent : optionValue? t = none) :
    optionValue? (s ++ t) = none := by
  unfold optionValue? at silent ⊢
  rw [List.dropWhile_append]
  split_ifs with blank
  · exact silent
  · cases rest : s.dropWhile (· = ' ') with
    | nil => simp [rest] at blank
    | cons c rest' =>
      have inside : c ∈ s := (List.dropWhile_sublist _).subset (rest ▸ List.mem_cons_self)
      have other : '<' ≠ c := by
        rintro rfl
        exact noTag inside
      simp [after?, other]

theorem optionValue?_of_not_mem (noTag : '<' ∉ s) : optionValue? s = none := by
  have read := optionValue?_append noTag (t := []) rfl
  rwa [List.append_nil] at read

theorem optionValues_of_not_mem (noTag : '<' ∉ s) : optionValues s = [] :=
  byLine_eq_nil (fun line absent => by rw [optionValue?_of_not_mem absent]; rfl) noTag

theorem optionValues_of_line (noFeed : '\n' ∉ s) : optionValues s = (optionValue? s).toList :=
  byLine_of_not_mem noFeed

/-- An attribute ends at its first quotation mark. -/
theorem attributeValue?_append (s t : Text) :
    attributeValue? (s ++ '"' :: t) = some (s.takeWhile (· ≠ '"')) := by
  unfold attributeValue?
  rw [if_pos (by simp), List.takeWhile_append]
  split_ifs with whole
  · have same := (List.takeWhile_prefix (fun c => decide (c ≠ '"')) (l := s)).eq_of_length whole
    rw [same]
    simp
  · rfl

/-! ## Options of a selection -/

theorem optionValues_label (noTag : '<' ∉ f.name) : optionValues (label f) = [] := by
  have needed : ∀ line, '<' ∉ line → (optionValue? line).toList = [] := fun line absent => by
    rw [optionValue?_of_not_mem absent]
    rfl
  have opening : optionValues ("          <label htmlFor=\"" ++ f.name
      ++ "\" className=\"block text-sm font-medium text-gray-700\">") = [] := by
    rw [List.append_assoc]
    exact byLine_append_of_silent needed (by simp [noTag]) (by decide) fun e _ => rfl
  have heading : '<' ∉ "            " ++ Naming.pascal f.name := by
    rw [List.mem_append]
    rintro (indent | shown)
    · revert indent
      decide
    · exact noTag (Naming.mem_pascal (by decide) shown)
  have text : optionValues ("            " ++ Naming.pascal f.name ++
      (if f.nullable then " <span className=\"text-gray-400\">(optional)</span>" else "" : Text)) =
      [] := by
    split_ifs
    · refine byLine_append_of_silent_front needed heading (by decide) fun e cut => ?_
      rw [optionValue?_append (fun inside => heading (cut.subset inside)) rfl]
      rfl
    · rw [show ("" : Text) = [] from rfl, List.append_nil]
      exact optionValues_of_not_mem heading
  have closing : optionValues "          </label>" = [] := by decide
  unfold label
  unfold optionValues at opening text closing ⊢
  rw [byLine_block _ (List.cons_ne_nil _ _)]
  simp only [List.flatMap_cons, List.flatMap_nil, opening, text, closing, List.append_nil]

/-- A value is offered as what its escaped text has before a quotation mark. -/
theorem optionValues_choice (line : '\n' ∉ value) :
    optionValues (choice value) = [(escaped value).takeWhile (· ≠ '"')] := by
  have shown : '\n' ∉ Naming.pascal value := fun member =>
    line (Naming.mem_pascal (by decide) member)
  have escapedLine : '\n' ∉ escaped value := fun member =>
    (Schema.mem_escaped member).elim line (by decide)
  have read : optionValue? (choice value) =
      attributeValue? (escaped value ++ '"' :: (">" ++ Naming.pascal value ++ "</option>")) := by
    have quoted : choice value = "            <option value=\"" ++
        (escaped value ++ '"' :: (">" ++ Naming.pascal value ++ "</option>")) := by
      have closing : ("\">" : Text) = '"' :: ">" := rfl
      unfold choice
      simp only [closing, List.append_assoc, List.cons_append]
    rw [quoted]
    rfl
  rw [optionValues_of_line, read, attributeValue?_append]
  · rfl
  · unfold choice
    simp [shown, escapedLine]

/-- A selection offers the empty value, if its field is nullable, and then the field's values, each
    up to the first quotation mark of its escaped text. -/
theorem optionValues_selection (noTag : '<' ∉ f.name) (item : ∀ x ∈ item?, '<' ∉ x)
    (lines : ∀ value ∈ f.choiceList, '\n' ∉ value) (given : f.choiceList ≠ []) :
    optionValues (selection f item?) = (if f.nullable then [[]] else []) ++
      f.choiceList.map fun value => (escaped value).takeWhile (· ≠ '"') := by
  have mark : optionValues ("            id=\"" ++ f.name ++ "\"") = [] :=
    optionValues_of_not_mem (by simp [noTag])
  have named : optionValues ("            name=\"" ++ f.name ++ "\"") = [] :=
    optionValues_of_not_mem (by simp [noTag])
  have style : optionValues ("            className=\"" ++ selectClasses ++ "\"" ++
      startValue f item? ++ required f) = [] := by
    refine optionValues_of_not_mem ?_
    have start : '<' ∉ startValue f item? := by
      cases item? with
      | none => exact List.not_mem_nil
      | some x =>
        unfold startValue defaultValue recordValue
        split_ifs <;> simp [noTag, item x rfl, Text.code]
    have mandatory : '<' ∉ required f := by
      unfold required
      split_ifs <;> decide
    have classes : '<' ∉ selectClasses := by
      unfold selectClasses
      rw [String.toList_ofList, String.toList_ofList]
      decide +kernel
    simp [start, mandatory, classes]
  have empty : optionValues ("          >" ++ (if f.nullable then
      "\n            <option value=\"\">None</option>" else "" : Text)) =
      if f.nullable then [[]] else [] := by
    split_ifs <;> decide +kernel
  have choices : optionValues (block (f.choiceList.map choice)) =
      f.choiceList.map fun value => (escaped value).takeWhile (· ≠ '"') := by
    have nonempty : f.choiceList.map choice ≠ [] := fun none =>
      given (List.map_eq_nil_iff.1 none)
    unfold optionValues
    rw [byLine_block _ nonempty, List.flatMap_map, List.map_eq_flatMap]
    exact List.flatMap_congr fun value listed => optionValues_choice (lines value listed)
  have label := optionValues_label noTag
  unfold selection
  unfold optionValues at label mark named style empty choices ⊢
  rw [byLine_block _ (List.cons_ne_nil _ _)]
  simp only [List.flatMap_cons, List.flatMap_nil, label, mark, named, style, empty, choices]
  have opening : byLine (fun line => (optionValue? line).toList) "        <div>" = [] := by decide
  have select : byLine (fun line => (optionValue? line).toList) "          <select" = [] := by
    decide
  have selectEnd : byLine (fun line => (optionValue? line).toList) "          </select>" = [] := by
    decide
  have closing : byLine (fun line => (optionValue? line).toList) "        </div>" = [] := by
    decide
  simp only [opening, select, selectEnd, closing, List.nil_append, List.append_nil]

/-! ## Values that escaping leaves alone -/

theorem length_le_escaped (s : Text) : s.length ≤ (escaped s).length := by
  induction s with
  | nil => exact le_rfl
  | cons c s ih =>
    rw [Schema.escaped_cons, List.length_append, List.length_cons]
    split_ifs
    · rw [List.length_cons, List.length_singleton]
      omega
    · rw [List.length_singleton]
      omega

theorem escaped_eq_self_iff : escaped value = value ↔ '"' ∉ value ∧ '\\' ∉ value := by
  induction value with
  | nil => simp [escaped]
  | cons c value ih =>
    rw [Schema.escaped_cons]
    by_cases marked : c = '\\' ∨ c = '"'
    · have longer := length_le_escaped value
      have two : (if c = '\\' || c = '"' then ['\\', c] else [c]) = ['\\', c] :=
        if_pos (by simpa using marked)
      rw [two]
      constructor
      · intro same
        have lengths := congrArg List.length same
        simp at lengths
        omega
      · rintro ⟨noQuote, noBackslash⟩
        rcases marked with rfl | rfl
        · exact absurd List.mem_cons_self noBackslash
        · exact absurd List.mem_cons_self noQuote
    · obtain ⟨noBackslash, noQuote⟩ := not_or.1 marked
      simp [ih, noBackslash, noQuote, Ne.symm noBackslash, Ne.symm noQuote]

/-- Escaping brings no quotation mark into a value. -/
theorem takeWhile_escaped (noQuote : '"' ∉ value) :
    (escaped value).takeWhile (· ≠ '"') = escaped value := by
  rw [List.takeWhile_eq_self_iff]
  intro c member
  rcases Schema.mem_escaped member with inside | rfl
  · simp only [ne_eq, decide_eq_true_eq]
    rintro rfl
    exact noQuote inside
  · decide

/-- An option has its value exactly if neither a quotation mark nor a backslash is in it. -/
theorem takeWhile_escaped_eq_iff : (escaped value).takeWhile (· ≠ '"') = value ↔
    '"' ∉ value ∧ '\\' ∉ value := by
  constructor
  · intro read
    have noQuote : '"' ∉ value := fun inside => by
      rw [← read] at inside
      simpa using List.mem_takeWhile_imp inside
    rw [takeWhile_escaped noQuote] at read
    exact escaped_eq_self_iff.1 read
  · rintro ⟨noQuote, noBackslash⟩
    rw [takeWhile_escaped noQuote]
    exact escaped_eq_self_iff.2 ⟨noQuote, noBackslash⟩

/-- A field that was read as an enum is shown as a selection. -/
theorem widget_eq_selection {token : Text} (read : Field.ofToken token = .ok f)
    (isEnum : f.isEnum = true) (item? : Option Text) : widget f item? = selection f item? := by
  have furnished := Field.furnished_of_reads (Field.ofToken_eq_ok_iff.1 read).2
  have given := (Field.wellFormed_of_ofToken read).choices isEnum
  unfold widget
  rw [furnished.isEnum_iff.1 isEnum]
  simp [isEnum, given]

/-- The form offers the values of an enum, after the empty one if the field is nullable, exactly if
    none of them has a quotation mark or a backslash. -/
theorem options_choices_iff {token : Text} (read : Field.ofToken token = .ok f)
    (isEnum : f.isEnum = true) (lines : ∀ value ∈ f.choiceList, '\n' ∉ value)
    (item : ∀ x ∈ item?, '<' ∉ x) :
    optionValues (widget f item?) = (if f.nullable then [[]] else []) ++ f.choiceList ↔
      ∀ value ∈ f.choiceList, '"' ∉ value ∧ '\\' ∉ value := by
  have formed := Field.wellFormed_of_ofToken read
  have noTag : '<' ∉ f.name :=
    not_mem_of_isNameChar (isNameChar_of_isIdentifier formed.identifier) (by decide)
  rw [widget_eq_selection read isEnum,
    optionValues_selection noTag item lines (formed.choices isEnum), List.append_right_inj]
  nth_rewrite 2 [← List.map_id f.choiceList]
  rw [List.map_inj_left]
  exact forall₂_congr fun value _ => takeWhile_escaped_eq_iff

/-- A nullable enum of three values. -/
def stage : Field where
  name := "stage"
  kind := .enum
  nullable := true
  isEnum := true
  choices := some ["draft", "on hold", "it's live"]

theorem stage_options :
    Field.ofToken "stage:enum?:draft, on hold,it's live" = .ok stage ∧
    stage.isEnum = true ∧ (∀ value ∈ stage.choiceList, '\n' ∉ value) ∧
    (∀ x ∈ some ("post" : Text), '<' ∉ x) ∧
    optionValues (widget stage (some "post")) = [[]] ++ stage.choiceList := by
  have read : Field.ofToken "stage:enum?:draft, on hold,it's live" = .ok stage := by decide
  have lines : ∀ value ∈ stage.choiceList, '\n' ∉ value := by decide
  have item : ∀ x ∈ some ("post" : Text), '<' ∉ x := by
    rintro x ⟨⟩
    decide
  exact ⟨read, rfl, lines, item, (options_choices_iff read rfl lines item).2 (by decide)⟩

/-- A directory of another system: the backslash between its names. -/
def folder : Field where
  name := "folder"
  kind := .enum
  isEnum := true
  choices := some ["home\\me"]

/-- The form offers a value with two backslashes where the schema lists a value with one. -/
theorem folder_offers_other :
    Field.ofToken "folder:enum:home\\me" = .ok folder ∧
    Schema.literalList? (Schema.choiceLiterals folder ++ "]".toList) =
      some (folder.choiceList, []) ∧
    optionValues (widget folder none) = ["home\\\\me".toList] ∧
    optionValues (widget folder none) ≠ folder.choiceList := by
  have read : Field.ofToken "folder:enum:home\\me" = .ok folder := by decide
  have offered : optionValues (widget folder none) = ["home\\\\me".toList] := by
    rw [widget_eq_selection read rfl, optionValues_selection (by decide) (by simp) (by decide)
      (by decide)]
    rfl
  refine ⟨read, Schema.literalList?_choiceLiterals (by decide) [], offered, ?_⟩
  rw [offered]
  decide

end Groundwork.Form
