import Groundwork.Proofs.Field.Parsed
import Groundwork.Proofs.Schema.Call
import Groundwork.Proofs.Text.Lines
import Groundwork.Schema.Definition

/-!
# Generated definitions

What the text of a definition looks like for fields whose texts stay in their line
(`Field.OneLine`): every export of an enum and every column is one line. If the texts call nothing
either (`Field.Inline`), the words that a column calls are its builder and those of a short list.
-/

namespace Groundwork

/-- The texts of a field that go into a definition: its name is plain, and its values and target
    have no line end and no opening parenthesis. -/
structure Field.Inline (f : Field) : Prop where
  plain : Text.Plain f.name
  nonempty : f.name ≠ []
  choices : ∀ value ∈ f.choiceList, Text.isOneLine value = true ∧ '(' ∉ value
  target : Text.isOneLine (f.target.getD []) = true ∧ '(' ∉ f.target.getD []

/-- The texts of a field that go into a definition stay in their line, whatever they call. -/
structure Field.OneLine (f : Field) : Prop where
  plain : Text.Plain f.name
  nonempty : f.name ≠ []
  choices : ∀ value ∈ f.choiceList, Text.isOneLine value = true
  target : Text.isOneLine (f.target.getD []) = true

theorem Field.Inline.oneLine {f : Field} (inline : f.Inline) : f.OneLine where
  plain := inline.plain
  nonempty := inline.nonempty
  choices value given := (inline.choices value given).1
  target := inline.target.1

/-- The spellings of a name that go into a definition are plain. -/
structure ModelNames.Plain (names : ModelNames) : Prop where
  camel : Text.Plain names.camel
  camelPlural : Text.Plain names.camelPlural
  nonempty : names.camelPlural ≠ []
  snake : Text.Plain names.snake
  table : Text.Plain names.table

theorem ModelNames.plain_ofName {name : Text} (plain : Text.Plain name) :
    (ofName name).Plain where
  camel := Naming.Plain.camel (Naming.Plain.singularise plain)
  camelPlural := Naming.Plain.camel (Naming.Plain.pluralise (Naming.Plain.singularise plain))
  nonempty := Naming.camel_ne_nil (Naming.Plain.pluralise (Naming.Plain.singularise plain))
    (Naming.pluralise_ne_nil _)
  snake := Naming.Plain.snake (Naming.Plain.singularise plain)
  table := Naming.Plain.pluralise (Naming.Plain.snake (Naming.Plain.singularise plain))

theorem Text.isOneLine_of_plain {s : Text} (plain : Plain s) : isOneLine s = true :=
  isOneLine_iff.2 ⟨plain.not_mem rfl, plain.not_mem rfl⟩

theorem Text.all_isWord_of_plain {s : Text} (plain : Plain s) : s.all isWord = true := by
  rw [List.all_eq_true]
  intro c member
  have letter := plain c member
  unfold isPlain at letter
  simp only [isWord, letter, Bool.true_or]

namespace Schema

open Text

variable {names : ModelNames} {f : Field}

/-! ## Parts of a column -/

theorem plain_enumName (plainNames : names.Plain) (plain : Plain f.name) :
    Plain (enumName names f) :=
  (plainNames.camel.append (Naming.Plain.pascal plain)).append (by decide)

theorem mem_escaped {c : Char} {s : Text} (member : c ∈ escaped s) : c ∈ s ∨ c = '\\' := by
  simp only [escaped, List.mem_flatMap] at member
  obtain ⟨d, inside, here⟩ := member
  split at here
  · rcases List.mem_cons.1 here with rfl | here
    · exact .inr rfl
    · rw [List.mem_singleton.1 here]
      exact .inl inside
  · rw [List.mem_singleton.1 here]
    exact .inl inside

/-- The literals of an enum bring in only quotation marks, commas, spaces and backslashes. -/
theorem mem_choiceLiterals {c : Char} (member : c ∈ choiceLiterals f) :
    c ∈ (", \"\\" : Text) ∨ ∃ value ∈ f.choiceList, c ∈ value := by
  rcases mem_intercalate member with gap | ⟨piece, listed, inside⟩
  · left
    revert gap
    simp
    tauto
  · obtain ⟨value, given, rfl⟩ := List.mem_map.1 listed
    rcases List.mem_append.1 inside with here | quote
    · rcases List.mem_append.1 here with quote | escape
      · exact .inl (by rw [show c = '"' by simpa using quote]; simp)
      · rcases mem_escaped escape with kept | rfl
        · exact .inr ⟨value, given, kept⟩
        · exact .inl (by simp)
    · exact .inl (by rw [show c = '"' by simpa using quote]; simp)

theorem isOneLine_choiceLiterals (oneLine : f.OneLine) :
    isOneLine (choiceLiterals f) = true := by
  rw [isOneLine_iff]
  refine ⟨?_, ?_⟩ <;> intro member <;>
    rcases mem_choiceLiterals member with mark | ⟨value, given, inside⟩
  · simp at mark
  · exact (isOneLine_iff.1 (oneLine.choices value given)).1 inside
  · simp at mark
  · exact (isOneLine_iff.1 (oneLine.choices value given)).2 inside

theorem not_mem_choiceLiterals (inline : f.Inline) : '(' ∉ choiceLiterals f := by
  intro member
  rcases mem_choiceLiterals member with mark | ⟨value, given, inside⟩
  · simp at mark
  · exact (inline.choices value given).2 inside

theorem mem_referencedTable {c : Char} (mark : c.toNat < 65) (member : c ∈ referencedTable f) :
    c ∈ f.target.getD [] :=
  Naming.mem_pluralise mark (Naming.mem_camel mark member)

theorem isOneLine_referencedTable (oneLine : f.OneLine) :
    isOneLine (referencedTable f) = true := by
  have line := isOneLine_iff.1 oneLine.target
  exact isOneLine_iff.2 ⟨fun member => line.1 (mem_referencedTable (by decide) member),
    fun member => line.2 (mem_referencedTable (by decide) member)⟩

/-! ## Columns -/

/-- The type of a column has texts of one line, and its settings call nothing. -/
structure ColumnType.Inline (t : ColumnType) : Prop where
  builder : t.builder.all isPlain = true
  settings : t.settings.all (fun s => isOneLine s && !s.contains '(') = true

theorem ColumnType.inline_sized (dialect : Dialect) (kind : FieldKind) :
    (ColumnType.sized dialect kind).Inline := by
  constructor <;> cases dialect <;> cases kind <;> rfl

theorem ColumnType.inline_referenceType (dialect : Dialect) (uuid : Bool) :
    (referenceType dialect uuid).Inline := by
  constructor <;> cases dialect <;> cases uuid <;> rfl

/-- What stands between the parentheses of a column's builder. -/
def ColumnType.arguments (t : ColumnType) (column : Text) : Text :=
  "\"" ++ column ++ "\"" ++ (match t.settings with
    | none => ""
    | some settings => ", " ++ settings : Text)

theorem ColumnType.call_eq (t : ColumnType) (column : Text) :
    t.call column = t.builder ++ '(' :: (t.arguments column ++ ")") := by
  unfold call arguments
  cases t.settings <;> simp

theorem ColumnType.Inline.arguments {t : ColumnType} (inline : t.Inline) {column : Text}
    (plain : Plain column) :
    isOneLine (t.arguments column) = true ∧ '(' ∉ t.arguments column := by
  have settings := inline.settings
  have noCall := plain.not_mem (c := '(') rfl
  unfold ColumnType.arguments
  cases given : t.settings with
  | none => simp [isOneLine_of_plain plain, noCall]
  | some given' =>
    simp only [given, Option.all_some, Bool.and_eq_true, Bool.not_eq_true',
      List.contains_eq_mem, decide_eq_false_iff_not] at settings
    simp [isOneLine_of_plain plain, noCall, settings.1, settings.2]

/-- The word that a column calls first. -/
def columnBuilder (names : ModelNames) (f : Field) (dialect : Dialect) (options : Options) : Text :=
  if f.isEnum then
    match dialect with
    | .postgresql => enumName names f
    | .mysql => "mysqlEnum"
    | .sqlite => "text"
  else if f.isReference then (referenceType dialect options.uuid).builder
  else (ColumnType.sized dialect f.kind).builder

/-- What a column calls its builder with. -/
def columnArguments (f : Field) (dialect : Dialect) (options : Options) : Text :=
  let column := Naming.snake f.name
  if f.isEnum then
    match dialect with
    | .postgresql => "\"" ++ column ++ "\""
    | .mysql => "\"" ++ column ++ "\", [" ++ choiceLiterals f ++ "]"
    | .sqlite => "\"" ++ column ++ Text.code "\", ⟦ enum: [" ++ choiceLiterals f ++ Text.code "] ⟧"
  else if f.isReference then (referenceType dialect options.uuid).arguments column
  else (ColumnType.sized dialect f.kind).arguments column

/-- What follows the call of a column's builder: the reference, and the calls that make the column
    required and unique. -/
def columnTail (f : Field) : Text :=
  (if !f.isEnum && f.isReference then
    ".references(() => " ++ referencedTable f ++ ".id)" else "" : Text) ++ modifiers f ++ ","

/-- The line of a column is a call of its builder with its tail. -/
theorem columnLine_eq (names : ModelNames) (f : Field) (dialect : Dialect) (options : Options) :
    columnLine names f dialect options =
      "  " ++ f.name ++ ": " ++ (columnBuilder names f dialect options ++
        '(' :: (columnArguments f dialect options ++ ")" ++ columnTail f)) := by
  unfold columnLine columnCall columnBuilder columnArguments columnTail
  cases isEnum : f.isEnum with
  | true =>
    unfold enumCall
    cases dialect <;> simp [Text.code]
  | false =>
    cases isReference : f.isReference with
    | true => simp [ColumnType.call_eq]
    | false => simp [ColumnType.call_eq]

theorem plain_columnBuilder (plainNames : names.Plain) (plain : Plain f.name) (dialect : Dialect)
    (options : Options) : Plain (columnBuilder names f dialect options) := by
  unfold columnBuilder
  split
  · cases dialect
    · exact (by decide : Plain ("text" : Text))
    · exact plain_enumName plainNames plain
    · exact (by decide : Plain ("mysqlEnum" : Text))
  · split
    · exact List.all_eq_true.1 (ColumnType.inline_referenceType _ _).builder
    · exact List.all_eq_true.1 (ColumnType.inline_sized _ _).builder

theorem isOneLine_columnArguments (oneLine : f.OneLine) (dialect : Dialect) (options : Options) :
    isOneLine (columnArguments f dialect options) = true := by
  have column := Naming.Plain.snake oneLine.plain
  have line := isOneLine_of_plain column
  unfold columnArguments
  split
  · cases dialect
    · simp [Text.code, line, isOneLine_choiceLiterals oneLine]
    · simp [line]
    · simp [line, isOneLine_choiceLiterals oneLine]
  · split
    · exact ((ColumnType.inline_referenceType _ _).arguments column).1
    · exact ((ColumnType.inline_sized _ _).arguments column).1

theorem not_mem_columnArguments (inline : f.Inline) (dialect : Dialect) (options : Options) :
    '(' ∉ columnArguments f dialect options := by
  have column := Naming.Plain.snake inline.plain
  have noCall := column.not_mem (c := '(') rfl
  unfold columnArguments
  split
  · cases dialect
    · simp [Text.code, noCall, not_mem_choiceLiterals inline]
    · simp [noCall]
    · simp [noCall, not_mem_choiceLiterals inline]
  · split
    · exact ((ColumnType.inline_referenceType _ _).arguments column).2
    · exact ((ColumnType.inline_sized _ _).arguments column).2

theorem isOneLine_columnTail (oneLine : f.OneLine) : isOneLine (columnTail f) = true := by
  have target := isOneLine_referencedTable oneLine
  unfold columnTail modifiers
  cases f.isEnum <;> cases f.isReference <;> cases f.nullable <;> cases f.unique <;>
    simp [target]

/-- A column is one line. -/
theorem isOneLine_columnLine (plainNames : names.Plain) (oneLine : f.OneLine) (dialect : Dialect)
    (options : Options) : isOneLine (columnLine names f dialect options) = true := by
  rw [columnLine_eq]
  have builder := isOneLine_of_plain (plain_columnBuilder plainNames oneLine.plain dialect options)
  have arguments := isOneLine_columnArguments oneLine dialect options
  have tail := isOneLine_columnTail oneLine
  have name := isOneLine_of_plain oneLine.plain
  simp only [isOneLine_append, builder, name, Bool.true_and]
  rw [← List.singleton_append, isOneLine_append, isOneLine_append, isOneLine_append, arguments,
    tail]
  rfl

/-! ## Calls of a table -/

/-- The words that a column calls after its builder. -/
def tailWords : List Text := ["references", "", "notNull", "unique"]

theorem calledNames_columnTail (inline : f.Inline) :
    ∀ name ∈ calledNames [] (columnTail f), name ∈ tailWords := by
  have target : '(' ∉ referencedTable f := fun member =>
    inline.target.2 (mem_referencedTable (by decide) member)
  have modifiersOnly : ∀ name ∈ calledNames [] (modifiers f ++ ","), name ∈ tailWords := by
    unfold modifiers
    cases f.nullable <;> cases f.unique <;> decide
  unfold columnTail
  split
  · have reference : calledNames [] (".references(() => " ++ referencedTable f ++ ".id)" ++
        (modifiers f ++ ",")) =
          ("references" : Text) :: [] :: calledNames [] (modifiers f ++ ",") := by
      have skip := calledNames_skip (a := referencedTable f ++ ".id") (c := ')')
        (by simp [target]) (by decide) [] (modifiers f ++ ",")
      rw [show (".references(() => " ++ referencedTable f ++ ".id)" ++ (modifiers f ++ ",")
          : Text) = ".references(() => " ++ (referencedTable f ++ ".id" ++ [')'] ++
            (modifiers f ++ ",")) by simp,
        calledNames_append]
      rw [show lastWord [] (".references(() => " : Text) = [] by decide, skip]
      rfl
    rw [List.append_assoc, reference]
    intro name member
    rcases List.mem_cons.1 member with rfl | member
    · decide
    · rcases List.mem_cons.1 member with rfl | member
      · decide
      · exact modifiersOnly name member
  · exact modifiersOnly

/-- A column calls its builder and then words of its tail. -/
theorem calledNames_columnLine (plainNames : names.Plain) (inline : f.Inline) (dialect : Dialect)
    (options : Options) :
    calledNames [] (columnLine names f dialect options) =
      columnBuilder names f dialect options :: calledNames [] (columnTail f) := by
  have name := inline.plain.not_mem (c := '(') rfl
  have builder :=
    all_isWord_of_plain (plain_columnBuilder plainNames inline.plain dialect options)
  have arguments := not_mem_columnArguments inline dialect options
  rw [columnLine_eq, show ("  " ++ f.name ++ ": " : Text) = "  " ++ f.name ++ ":" ++ [' '] by simp,
    calledNames_skip (by simp [name]) (by decide), calledNames_call builder]
  rw [show columnArguments f dialect options ++ ")" ++ columnTail f =
    columnArguments f dialect options ++ [')'] ++ columnTail f from rfl,
    calledNames_skip (by simp [arguments]) (by decide)]

/-- The calls of lines that end no word are those of each. -/
theorem calledNames_intercalate {lines : List Text}
    (ended : ∀ line ∈ lines, lastWord [] line = []) :
    calledNames [] (List.intercalate ['\n'] lines) = lines.flatMap (calledNames []) ∧
      lastWord [] (List.intercalate ['\n'] lines) = [] := by
  induction lines with
  | nil => exact ⟨rfl, rfl⟩
  | cons first lines ih =>
    have here := ended first (by simp)
    cases lines with
    | nil => simp [here]
    | cons next lines =>
      obtain ⟨names, last⟩ := ih fun line member => ended line (List.mem_cons_of_mem _ member)
      have feed : calledNames [] (['\n'] : Text) = [] := rfl
      have feedLast : lastWord [] (['\n'] : Text) = [] := rfl
      rw [List.intercalate_cons_cons]
      simp only [calledNames_append, lastWord_append, here, names, feed, feedLast, last,
        List.append_nil, List.flatMap_cons, and_self]

/-- The enums that the columns of a model call, one for each field that is an enum. -/
def columnEnums (names : ModelNames) (fields : List Field) : Dialect → List Text
  | .postgresql => (fields.filter Field.isEnum).map (enumName names)
  | .mysql => (fields.filter Field.isEnum).map fun _ => "mysqlEnum"
  | .sqlite => []

theorem isEnumWord_enumName (oneLine : f.OneLine) : isEnumWord (enumName names f) = true := by
  rw [isEnumWord, hasStem_iff]
  refine ⟨names.camel ++ Naming.pascal f.name, ?_, rfl⟩
  simp [Naming.pascal_ne_nil oneLine.plain oneLine.nonempty]

theorem not_isTableWord_enumName : isTableWord (enumName names f) = false := by
  rw [← Bool.not_eq_true, isTableWord, hasStem_iff]
  rintro ⟨stem, -, same⟩
  unfold enumName at same
  have last := congrArg List.getLast? same
  simp at last

theorem builder_sized (dialect : Dialect) (kind : FieldKind) :
    isEnumWord (ColumnType.sized dialect kind).builder = false ∧
      isTableWord (ColumnType.sized dialect kind).builder = false := by
  constructor <;> cases dialect <;> cases kind <;> rfl

theorem builder_referenceType (dialect : Dialect) (uuid : Bool) :
    isEnumWord (referenceType dialect uuid).builder = false ∧
      isTableWord (referenceType dialect uuid).builder = false := by
  constructor <;> cases dialect <;> cases uuid <;> rfl

theorem plain_tailWords : ∀ name ∈ tailWords,
    isEnumWord name = false ∧ isTableWord name = false := by
  decide

/-- The enums that a column calls. -/
theorem filter_columnLine (plainNames : names.Plain) (inline : f.Inline) (dialect : Dialect)
    (options : Options) :
    (calledNames [] (columnLine names f dialect options)).filter isEnumWord =
      columnEnums names [f] dialect := by
  have tail : (calledNames [] (columnTail f)).filter isEnumWord = [] := by
    rw [List.filter_eq_nil_iff]
    intro name member
    simp [(plain_tailWords name (calledNames_columnTail inline name member)).1]
  rw [calledNames_columnLine plainNames inline, List.filter_cons, tail]
  unfold columnBuilder
  cases isEnum : f.isEnum with
  | true =>
    cases dialect with
    | postgresql => simp [columnEnums, isEnum, isEnumWord_enumName inline.oneLine]
    | mysql => simp only [columnEnums, isEnum, if_true, List.filter_cons, List.filter_nil]; rfl
    | sqlite => rfl
  | false =>
    have none : columnEnums names [f] dialect = [] := by
      cases dialect <;> simp [columnEnums, isEnum]
    simp only [none, Bool.false_eq_true, if_false]
    split
    · simp [(builder_referenceType dialect options.uuid).1]
    · simp [(builder_sized dialect f.kind).1]

/-- No column calls a builder of tables. -/
theorem not_isTableWord_columnLine (plainNames : names.Plain) (inline : f.Inline)
    (dialect : Dialect) (options : Options) :
    ∀ name ∈ calledNames [] (columnLine names f dialect options), isTableWord name = false := by
  rw [calledNames_columnLine plainNames inline]
  intro name member
  rcases List.mem_cons.1 member with rfl | member
  · unfold columnBuilder
    split
    · cases dialect
      · rfl
      · exact not_isTableWord_enumName
      · rfl
    · split
      · exact (builder_referenceType dialect options.uuid).2
      · exact (builder_sized dialect f.kind).2
  · exact (plain_tailWords name (calledNames_columnTail inline name member)).2

/-- The fields of a model and its names can go into a definition. -/
structure InlineModel (names : ModelNames) (fields : List Field) : Prop where
  spellings : names.Plain
  columns : ∀ f ∈ fields, f.Inline

/-- The definitions of the model stay in the lines that they are given, whatever they call. -/
structure OneLineModel (names : ModelNames) (fields : List Field) : Prop where
  spellings : names.Plain
  columns : ∀ f ∈ fields, f.OneLine

variable {fields : List Field}

theorem InlineModel.oneLine (inline : InlineModel names fields) : OneLineModel names fields where
  spellings := inline.spellings
  columns f given := (inline.columns f given).oneLine

/-- The lines of a table are those of the key, of the columns and of the timestamps. -/
theorem mem_tableLines_iff {dialect : Dialect} {options : Options} {line : Text} :
    line ∈ tableLines names fields dialect options ↔
      line = "  " ++ keyColumn dialect options.uuid ++ "," ∨
      (∃ f ∈ fields, columnLine names f dialect options = line) ∨
      (options.noTimestamps = false ∧ line = "  " ++ timestampColumns dialect ++ ",") := by
  unfold tableLines
  rw [List.append_assoc, List.mem_append, List.mem_append, List.mem_singleton, List.mem_map]
  cases options.noTimestamps <;> simp

/-- The key and the timestamps call neither an enum nor a builder of tables, end no word, and are
    indented. -/
structure GeneratedLine (line : Text) : Prop where
  noEnum : (calledNames [] line).filter isEnumWord = []
  noTable : ∀ name ∈ calledNames [] line, isTableWord name = false
  ended : lastWord [] line = []
  indented : line.head? = some ' ' ∧ isIndented line = true ∧ '\r' ∉ line

theorem generatedLine_keyColumn (dialect : Dialect) (uuid : Bool) :
    GeneratedLine ("  " ++ keyColumn dialect uuid ++ ",") := by
  unfold keyColumn
  constructor <;> cases dialect <;> cases uuid <;> repeat rw [String.toList_ofList]
  all_goals decide

theorem generatedLine_timestampColumns (dialect : Dialect) :
    GeneratedLine ("  " ++ timestampColumns dialect ++ ",") := by
  unfold timestampColumns
  constructor <;> cases dialect <;> repeat rw [String.toList_ofList]
  all_goals decide

end Schema

end Groundwork
