import Groundwork.Proofs.Schema.Definition

/-!
# Generated tables

The block of a generated table: a header, an indented body and a closing line. It calls the builder
of tables first, then what its columns call (`enumCallsAfter_tableExport`), and wherever a line
begins with it, the block that is recognised there is all of it (`tableBlockAt?_tableExport`).
-/

namespace Groundwork.Schema

open Text

variable {names : ModelNames} {fields : List Field}

/-- The opening of a table's block, up to the name of the table. -/
def tableHeader (names : ModelNames) (dialect : Dialect) : Text :=
  "export const " ++ names.camelPlural ++ " = " ++ dialect.tableBuilder ++ "(\"" ++ names.table
    ++ "\""

/-- What stands between the opening of a table's block and the line feed before its last line. -/
def tableBody (names : ModelNames) (fields : List Field) (dialect : Dialect) (options : Options) :
    Text :=
  Text.code ", ⟦\n" ++ List.intercalate "\n" (tableLines names fields dialect options)

/-- The last line of a table's block. -/
def tableEnd : Text := Text.code "⟧);"

theorem tableExport_eq (names : ModelNames) (fields : List Field) (dialect : Dialect)
    (options : Options) :
    tableExport names fields dialect options =
      tableHeader names dialect ++
        (tableBody names fields dialect options ++ '\n' :: tableEnd) := by
  unfold tableExport tableHeader tableBody tableEnd
  simp [Text.code]

/-! ## Lines -/

theorem generatedLine_of_mem_tableLines {dialect : Dialect}
    {options : Options} {line : Text} (member : line ∈ tableLines names fields dialect options) :
    (∃ f ∈ fields, line = columnLine names f dialect options) ∨ GeneratedLine line := by
  rcases mem_tableLines_iff.1 member with rfl | ⟨f, given, rfl⟩ | ⟨-, rfl⟩
  · exact .inr (generatedLine_keyColumn dialect options.uuid)
  · exact .inl ⟨f, given, rfl⟩
  · exact .inr (generatedLine_timestampColumns dialect)

theorem indented_of_mem_tableLines (oneLine : OneLineModel names fields) {dialect : Dialect}
    {options : Options} {line : Text} (member : line ∈ tableLines names fields dialect options) :
    line.head? = some ' ' ∧ isIndented line = true ∧ '\r' ∉ line := by
  rcases generatedLine_of_mem_tableLines member with ⟨f, given, rfl⟩ | generated
  · have line := isOneLine_columnLine oneLine.spellings (oneLine.columns f given) dialect options
    refine ⟨?_, isIndented_of_isOneLine line, (isOneLine_iff.1 line).2⟩
    simp [columnLine]
  · exact generated.indented

theorem ended_of_mem_tableLines {dialect : Dialect}
    {options : Options} {line : Text} (member : line ∈ tableLines names fields dialect options) :
    lastWord [] line = [] := by
  rcases generatedLine_of_mem_tableLines member with ⟨f, given, rfl⟩ | generated
  · exact lastWord_concat (by decide) _ _
  · exact generated.ended

theorem not_isTableWord_of_mem_tableLines (inline : InlineModel names fields) {dialect : Dialect}
    {options : Options} {line name : Text} (member : line ∈ tableLines names fields dialect options)
    (called : name ∈ calledNames [] line) : isTableWord name = false := by
  rcases generatedLine_of_mem_tableLines member with ⟨f, given, rfl⟩ | generated
  · have column := inline.columns f given
    exact not_isTableWord_columnLine inline.spellings column dialect options name called
  · exact generated.noTable name called

theorem tableBody_eq (names : ModelNames) (fields : List Field) (dialect : Dialect)
    (options : Options) :
    tableBody names fields dialect options =
      List.intercalate ['\n'] (Text.code ", ⟦" :: tableLines names fields dialect options) := by
  unfold tableBody
  cases lines : tableLines names fields dialect options with
  | nil => simp [tableLines] at lines
  | cons first rest => simp [List.intercalate_cons_cons, Text.code]

/-- The body of a table is indented. -/
theorem isIndented_tableBody (oneLine : OneLineModel names fields) (dialect : Dialect)
    (options : Options) : isIndented (tableBody names fields dialect options) = true := by
  rw [tableBody_eq]
  refine isIndented_intercalate (by decide) fun line member => ?_
  have indented := indented_of_mem_tableLines oneLine member
  exact ⟨indented.1, indented.2.1⟩

/-- A table has no carriage returns. -/
theorem not_mem_return_tableExport (oneLine : OneLineModel names fields) (dialect : Dialect)
    (options : Options) : '\r' ∉ tableExport names fields dialect options := by
  have header : '\r' ∉ tableHeader names dialect := by
    have camel := oneLine.spellings.camelPlural.not_mem (c := '\r') rfl
    have table := oneLine.spellings.table.not_mem (c := '\r') rfl
    have builder : '\r' ∉ dialect.tableBuilder := by cases dialect <;> decide
    unfold tableHeader
    simp [camel, table, builder]
  have body : '\r' ∉ tableBody names fields dialect options := by
    rw [tableBody_eq]
    intro member
    rcases mem_intercalate member with feed | ⟨line, listed, inside⟩
    · simp at feed
    · rcases List.mem_cons.1 listed with rfl | listed
      · revert inside
        decide
      · exact (indented_of_mem_tableLines oneLine listed).2.2 inside
  have ending : '\r' ∉ tableEnd := by decide
  rw [tableExport_eq]
  simp [header, body, ending]

/-! ## Calls -/

/-- What a table calls: its builder, then what its lines call. -/
theorem calledNames_tableExport (inline : InlineModel names fields) (dialect : Dialect)
    (options : Options) :
    calledNames [] (tableExport names fields dialect options) =
      dialect.tableBuilder ::
        (tableLines names fields dialect options).flatMap (calledNames []) := by
  have ended : ∀ line ∈ Text.code ", ⟦" :: tableLines names fields dialect options,
      lastWord [] line = [] := by
    intro line member
    rcases List.mem_cons.1 member with rfl | member
    · decide
    · exact ended_of_mem_tableLines member
  obtain ⟨called, last⟩ := calledNames_intercalate ended
  have builder : dialect.tableBuilder.all isWord = true := by cases dialect <;> decide
  have camel := inline.spellings.camelPlural.not_mem (c := '(') rfl
  have table := inline.spellings.table.not_mem (c := '(') rfl
  have header : tableHeader names dialect =
      "export const " ++ names.camelPlural ++ " =" ++ [' '] ++
        (dialect.tableBuilder ++ '(' :: ("\"" ++ names.table ++ ['"'])) := by
    unfold tableHeader
    simp
  rw [tableExport_eq, header, List.append_assoc, calledNames_skip (by simp [camel]) (by decide),
    List.append_assoc, List.cons_append, calledNames_call builder,
    calledNames_skip (by simp [table]) (by decide), tableBody_eq, calledNames_append, called, last]
  simp [calledNames, callsAfter, tableEnd, Text.code]

theorem columnEnums_eq_flatMap (names : ModelNames) (fields : List Field) (dialect : Dialect) :
    columnEnums names fields dialect = fields.flatMap fun f => columnEnums names [f] dialect := by
  cases dialect with
  | sqlite => simp [columnEnums]
  | postgresql =>
    induction fields with
    | nil => rfl
    | cons f fields ih => cases isEnum : f.isEnum <;> simp_all [columnEnums]
  | mysql =>
    induction fields with
    | nil => rfl
    | cons f fields ih => cases isEnum : f.isEnum <;> simp_all [columnEnums]

/-- The enums that the block of a table calls are those of its columns. -/
theorem enumCallsAfter_tableExport (inline : InlineModel names fields) (dialect : Dialect)
    (options : Options) :
    enumCallsAfter [] (tableExport names fields dialect options) =
      columnEnums names fields dialect := by
  have builder : isEnumWord dialect.tableBuilder = false := by cases dialect <;> rfl
  have key := (generatedLine_keyColumn dialect options.uuid).noEnum
  have stamps := (generatedLine_timestampColumns dialect).noEnum
  have columns : (fields.map fun f => columnLine names f dialect options).flatMap
      (fun line => (calledNames [] line).filter isEnumWord) = columnEnums names fields dialect := by
    rw [List.flatMap_map, columnEnums_eq_flatMap]
    refine List.flatMap_congr fun f given => ?_
    exact filter_columnLine inline.spellings (inline.columns f given) dialect options
  rw [enumCallsAfter_eq, calledNames_tableExport inline,
    List.filter_cons_of_neg (by simp [builder]), List.filter_flatMap]
  unfold tableLines
  rw [List.flatMap_append, List.flatMap_append, columns, List.flatMap_singleton, key]
  split
  · simp
  · simp only [List.flatMap_singleton, stamps, List.nil_append, List.append_nil]

/-- The only builder of tables that a table calls is its own. -/
theorem not_isTableWord_of_mem_flatMap (inline : InlineModel names fields) (dialect : Dialect)
    (options : Options) :
    ∀ name ∈ (tableLines names fields dialect options).flatMap (calledNames []),
      isTableWord name = false := by
  intro name member
  obtain ⟨line, listed, called⟩ := List.mem_flatMap.1 member
  exact not_isTableWord_of_mem_tableLines inline listed called

end Groundwork.Schema
