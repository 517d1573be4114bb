import Groundwork.Proofs.Schema.ExportName
import Groundwork.Proofs.Schema.Swap
import Groundwork.Proofs.Text.Reading

/-!
# What definitions list

The definitions of a model are read back line by line: an export gives the name that it exports and
the builder that it calls (`exportCalls`), and a line of a table gives the property that it declares
and the builder of its column (`columnCalls`). The lists are those of the model
(`exportCalls_definitions`, `columnCalls_definitions`): what a column says after its builder, and
the lines that follow it, add nothing.
-/

namespace Groundwork

open Text

/-- The line of a field's column can be told from other lines: the field's name is plain, its values
    break no line, and its target has no colon. -/
structure Field.Legible (f : Field) : Prop where
  plain : Plain f.name
  nonempty : f.name ≠ []
  choices : ∀ value ∈ f.choiceList, '\n' ∉ value
  target : ':' ∉ f.target.getD []

/-- A field that was read from a token is legible if its name and its values break no line. -/
theorem Field.legible_of_ofToken {token : Text} {f : Field} (read : ofToken token = .ok f)
    (name : '\n' ∉ f.name) (choices : ∀ value ∈ f.choiceList, '\n' ∉ value) : f.Legible where
  plain := plain_of_isIdentifier name (wellFormed_of_ofToken read).identifier
  nonempty := by
    obtain ⟨c, s, cut, -⟩ := letters_of_isIdentifier name (wellFormed_of_ofToken read).identifier
    simp [cut]
  choices := choices
  target := not_mem_target read

namespace Schema

variable {names : ModelNames} {fields : List Field} {f : Field} {dialect : Dialect}
  {options : Options}

/-! ## Readers -/

/-- The name that a line exports, and the builder that it is built with. -/
def exportCall? (line : Text) : Option (Text × Text) := do
  let s ← after? "export const " line
  let (name, s) := s.span isIdentifierChar
  let s ← after? " = " s
  match s.span isIdentifierChar with
  | (builder, '(' :: _) => some (name, builder)
  | _ => none

/-- The property that a line of a table declares, and the builder of its column. -/
def columnCall? (line : Text) : Option (Text × Text) := do
  let (name, value) ← property? "  " line
  match value.span (· ≠ '(') with
  | (builder, '(' :: _) => some (name, builder)
  | _ => none

/-- The names that a text exports, each with the builder that it is built with. -/
def exportCalls (source : Text) : List (Text × Text) :=
  byLine (fun line => (exportCall? line).toList) source

/-- The properties that the tables of a text declare, each with the builder of its column. -/
def columnCalls (source : Text) : List (Text × Text) :=
  byLine (fun line => (columnCall? line).toList) source

theorem exportCall?_export {name builder : Text} (letters : name.all isIdentifierChar = true)
    (called : builder.all isIdentifierChar = true) (rest : Text) :
    exportCall? ("export const " ++ (name ++ (" = " ++ (builder ++ '(' :: rest)))) =
      some (name, builder) := by
  have named : (name ++ (" = " ++ (builder ++ '(' :: rest))).span isIdentifierChar =
      (name, " = " ++ (builder ++ '(' :: rest)) :=
    span_eq_iff.2 ⟨rfl, letters, (stops_cons _ _ _).2 (by decide)⟩
  have built : (builder ++ '(' :: rest).span isIdentifierChar = (builder, '(' :: rest) :=
    span_eq_iff.2 ⟨rfl, called, (stops_cons _ _ _).2 (by decide)⟩
  unfold exportCall?
  simp only [Option.bind_eq_bind, after?_eq_some_iff.2 rfl, Option.bind_some, named, built]

theorem columnCall?_column {name builder : Text} (letters : name.all isWord = true)
    (nonempty : name ≠ []) (called : '(' ∉ builder) (rest : Text) :
    columnCall? ("  " ++ (name ++ (": " ++ (builder ++ '(' :: rest)))) = some (name, builder) := by
  have built : (builder ++ '(' :: rest).span (· ≠ '(') = (builder, '(' :: rest) :=
    span_ne_eq_iff.2 ⟨rfl, called⟩
  unfold columnCall?
  simp only [property?_append letters nonempty, Option.bind_eq_bind, Option.bind_some, built]

/-- A line without a colon declares no property. -/
theorem columnCall?_of_not_mem {line : Text} (noColon : ':' ∉ line) : columnCall? line = none := by
  unfold columnCall?
  rw [property?_of_not_mem noColon]
  rfl

/-! ## Lines of definitions -/

/-- The line that opens a table. -/
def tableOpening (names : ModelNames) (dialect : Dialect) : Text :=
  tableHeader names dialect ++ Text.code ", ⟦"

theorem not_mem_feed_choiceLiterals (choices : ∀ value ∈ f.choiceList, '\n' ∉ value) :
    '\n' ∉ choiceLiterals f := by
  intro member
  rcases mem_choiceLiterals member with mark | ⟨value, given, inside⟩
  · simp at mark
  · exact choices value given inside

theorem not_mem_feed_enumExport (plain : names.Plain) (legible : f.Legible) :
    '\n' ∉ enumExport names f := by
  have camel := plain.camel.not_mem (c := '\n') rfl
  have field := (Naming.Plain.pascal legible.plain).not_mem (c := '\n') rfl
  have snake := plain.snake.not_mem (c := '\n') rfl
  have column := (Naming.Plain.snake legible.plain).not_mem (c := '\n') rfl
  have choices := not_mem_feed_choiceLiterals legible.choices
  unfold enumExport enumName
  simp [camel, field, snake, column, choices]

theorem not_mem_feed_tableOpening (plain : names.Plain) (dialect : Dialect) :
    '\n' ∉ tableOpening names dialect := by
  have camel := plain.camelPlural.not_mem (c := '\n') rfl
  have table := plain.table.not_mem (c := '\n') rfl
  have builder : '\n' ∉ dialect.tableBuilder := by cases dialect <;> decide
  unfold tableOpening tableHeader
  simp [camel, table, builder, Text.code]

theorem tableExport_eq_lines (names : ModelNames) (fields : List Field) (dialect : Dialect)
    (options : Options) :
    tableExport names fields dialect options =
      tableOpening names dialect ++ '\n' :: (List.intercalate ['\n']
        (tableLines names fields dialect options) ++ '\n' :: tableEnd) := by
  rw [tableExport_eq]
  unfold tableBody tableOpening
  simp [Text.code]

/-- Definitions are read line by line: the exports of enums, each with an empty line after it, the
    line that opens the table, what the table declares, and the line that closes it. -/
theorem byLine_definitions {α : Type} (read : Text → List α) (plain : names.Plain)
    (legible : ∀ f ∈ fields, f.Legible) (dialect : Dialect) (options : Options) :
    byLine read (definitions names fields dialect options) =
      (exportedEnums fields dialect).flatMap (fun f => read (enumExport names f) ++ read []) ++
        (read (tableOpening names dialect) ++
          ((tableLines names fields dialect options).flatMap (byLine read) ++ read tableEnd)) := by
  have table : byLine read (tableExport names fields dialect options) =
      read (tableOpening names dialect) ++
        ((tableLines names fields dialect options).flatMap (byLine read) ++ read tableEnd) := by
    rw [tableExport_eq_lines, byLine_append_feed, byLine_append_feed,
      byLine_intercalate read (by simp [tableLines]),
      byLine_of_not_mem (not_mem_feed_tableOpening plain dialect), byLine_of_not_mem (by decide)]
  have legibleEnums : ∀ f ∈ exportedEnums fields dialect, f.Legible := fun f member =>
    legible f (of_mem_exportedEnums member).2.1
  rw [definitions_eq]
  generalize exportedEnums fields dialect = enums at legibleEnums
  induction enums with
  | nil => exact table
  | cons f enums ih =>
    rw [show exportBlocks names (f :: enums) ++ tableExport names fields dialect options =
        enumExport names f ++ '\n' :: ([] ++ '\n' :: (exportBlocks names enums ++
          tableExport names fields dialect options)) by simp [exportBlocks, exportBlock],
      byLine_append_feed, byLine_append_feed, ih fun g member => legibleEnums g (by simp [member]),
      byLine_of_not_mem (not_mem_feed_enumExport plain (legibleEnums f (by simp))),
      byLine_of_not_mem (by simp)]
    simp

/-! ## Columns -/

theorem not_mem_feed_columnArguments (legible : f.Legible) (dialect : Dialect)
    (options : Options) : '\n' ∉ columnArguments f dialect options := by
  have column := Naming.Plain.snake legible.plain
  have line := column.not_mem (c := '\n') rfl
  have choices := not_mem_feed_choiceLiterals legible.choices
  unfold columnArguments
  split
  · cases dialect
    · simp [Text.code, line, choices]
    · simp [line]
    · simp [line, choices]
  · split
    · exact (isOneLine_iff.1 ((ColumnType.inline_referenceType _ _).arguments column).1).1
    · exact (isOneLine_iff.1 ((ColumnType.inline_sized _ _).arguments column).1).1

theorem not_mem_colon_columnTail (target : ':' ∉ f.target.getD []) : ':' ∉ columnTail f := by
  have target : ':' ∉ referencedTable f := fun member =>
    target (mem_referencedTable (by decide) member)
  unfold columnTail modifiers
  cases f.isEnum <;> cases f.isReference <;> cases f.nullable <;> cases f.unique <;>
    simp [target]

/-- A column is declared on the first line of its text, whatever follows its builder. -/
theorem columnCalls_columnLine (plain : names.Plain) (legible : f.Legible) (dialect : Dialect)
    (options : Options) :
    columnCalls (columnLine names f dialect options) =
      [(f.name, columnBuilder names f dialect options)] := by
  have letters := all_isWord_of_plain legible.plain
  have builder := plain_columnBuilder plain legible.plain dialect options
  have arguments := not_mem_feed_columnArguments legible dialect options
  have head : '\n' ∉ "  " ++ (f.name ++ (": " ++ (columnBuilder names f dialect options ++
      '(' :: (columnArguments f dialect options ++ ")")))) := by
    have name := legible.plain.not_mem (c := '\n') rfl
    simp [name, builder.not_mem (c := '\n') rfl, arguments]
  have declared (rest : Text) : columnCall? (("  " ++ (f.name ++ (": " ++
      (columnBuilder names f dialect options ++ '(' ::
        (columnArguments f dialect options ++ ")"))))) ++ rest) =
      some (f.name, columnBuilder names f dialect options) := by
    have call := columnCall?_column letters legible.nonempty
      (builder.not_mem rfl) (columnArguments f dialect options ++ ")" ++ rest)
    simpa using call
  rw [columnLine_eq, show ("  " ++ f.name ++ ": " ++ (columnBuilder names f dialect options ++
    '(' :: (columnArguments f dialect options ++ ")" ++ columnTail f)) : Text) =
      ("  " ++ (f.name ++ (": " ++ (columnBuilder names f dialect options ++ '(' ::
        (columnArguments f dialect options ++ ")"))))) ++ columnTail f by simp]
  refine byLine_append_of_silent ?_ (not_mem_colon_columnTail legible.target) head fun e _ => ?_
  · intro line noColon
    rw [columnCall?_of_not_mem noColon]
    rfl
  · rw [declared]
    rfl

theorem columnCalls_keyColumn (dialect : Dialect) (uuid : Bool) :
    columnCalls ("  " ++ keyColumn dialect uuid ++ ",") =
      [(primaryKey, keyBuilder dialect uuid)] := by
  unfold keyColumn
  cases dialect <;> cases uuid <;> repeat rw [String.toList_ofList]
  all_goals decide +kernel

theorem columnCalls_timestampColumns (dialect : Dialect) :
    columnCalls ("  " ++ timestampColumns dialect ++ ",") =
      timestampNames.map fun name => (name, timestampBuilder dialect) := by
  unfold timestampColumns
  cases dialect <;> repeat rw [String.toList_ofList]
  all_goals decide +kernel

/-- The columns of definitions are the primary key, one for each field, and the timestamps unless
    they are left out. -/
theorem columnCalls_definitions (plain : names.Plain) (legible : ∀ f ∈ fields, f.Legible)
    (dialect : Dialect) (options : Options) :
    columnCalls (definitions names fields dialect options) =
      [(primaryKey, keyBuilder dialect options.uuid)]
        ++ (fields.map fun f => (f.name, columnBuilder names f dialect options))
        ++ (if options.noTimestamps then []
          else timestampNames.map fun name => (name, timestampBuilder dialect)) := by
  have enums (f : Field) : columnCall? (enumExport names f) = none := rfl
  have opening : columnCall? (tableOpening names dialect) = none := rfl
  have columns : (fields.map fun f => columnLine names f dialect options).flatMap columnCalls =
      fields.map fun f => (f.name, columnBuilder names f dialect options) := by
    rw [List.flatMap_map, ← List.flatMap_pure_eq_map]
    exact List.flatMap_congr fun f member =>
      columnCalls_columnLine plain (legible f member) dialect options
  have stamps : (if options.noTimestamps then [] else
      ["  " ++ timestampColumns dialect ++ ","] : List Text).flatMap columnCalls =
      if options.noTimestamps then []
      else timestampNames.map fun name => (name, timestampBuilder dialect) := by
    cases options.noTimestamps
    · simpa using columnCalls_timestampColumns dialect
    · rfl
  have lines : (tableLines names fields dialect options).flatMap columnCalls =
      [(primaryKey, keyBuilder dialect options.uuid)]
        ++ (fields.map fun f => (f.name, columnBuilder names f dialect options))
        ++ (if options.noTimestamps then []
          else timestampNames.map fun name => (name, timestampBuilder dialect)) := by
    unfold tableLines
    rw [List.flatMap_append, List.flatMap_append, columns, stamps, List.flatMap_singleton,
      columnCalls_keyColumn]
  have whole := byLine_definitions (fun line => (columnCall? line).toList) plain legible dialect
    options
  unfold columnCalls at lines ⊢
  rw [whole, lines]
  simp only [enums, opening, show columnCall? [] = none from rfl,
    show columnCall? tableEnd = none from by decide]
  simp

/-! ## Exports -/

theorem exportCall?_enumExport (plain : names.Plain) (name : Plain f.name) :
    exportCall? (enumExport names f) = some (enumName names f, ("pgEnum" : Text)) := by
  have letters := all_isIdentifierChar_of_all_isWord (all_isWord_of_plain
    (plain_enumName plain name))
  have builder : ("pgEnum" : Text).all isIdentifierChar = true := by decide
  have call := exportCall?_export letters builder (enumLine names f)
  rw [enumExport_eq]
  simpa using call

theorem exportCall?_tableOpening (plain : names.Plain) (dialect : Dialect) :
    exportCall? (tableOpening names dialect) = some (names.camelPlural, dialect.tableBuilder) := by
  have letters := all_isIdentifierChar_of_all_isWord (all_isWord_of_plain plain.camelPlural)
  have builder : dialect.tableBuilder.all isIdentifierChar = true := by cases dialect <;> decide
  have call := exportCall?_export letters builder ("\"" ++ names.table ++ "\"" ++ Text.code ", ⟦")
  unfold tableOpening tableHeader
  simpa using call

/-- No line of a table is an export, if the fields keep to their lines. -/
theorem exportCalls_tableLines (oneLine : OneLineModel names fields) {line : Text}
    (member : line ∈ tableLines names fields dialect options) : exportCalls line = [] := by
  rcases mem_tableLines_iff.1 member with rfl | ⟨f, given, rfl⟩ | ⟨-, rfl⟩
  · unfold keyColumn
    cases dialect <;> cases options.uuid <;> repeat rw [String.toList_ofList]
    all_goals decide +kernel
  · have line := isOneLine_columnLine oneLine.spellings (oneLine.columns f given) dialect options
    unfold exportCalls
    rw [byLine_of_not_mem (isOneLine_iff.1 line).1]
    rfl
  · unfold timestampColumns
    cases dialect <;> repeat rw [String.toList_ofList]
    all_goals decide +kernel

/-- Definitions export the enums of the model and its table. -/
theorem exportCalls_definitions (oneLine : OneLineModel names fields)
    (legible : ∀ f ∈ fields, f.Legible) (dialect : Dialect) (options : Options) :
    exportCalls (definitions names fields dialect options) =
      ((exportedEnums fields dialect).map fun f => (enumName names f, ("pgEnum" : Text)))
        ++ [(names.camelPlural, dialect.tableBuilder)] := by
  have plain := oneLine.spellings
  have enums : (exportedEnums fields dialect).flatMap (fun f =>
      (exportCall? (enumExport names f)).toList ++ (exportCall? []).toList) =
      (exportedEnums fields dialect).map fun f => (enumName names f, ("pgEnum" : Text)) := by
    rw [← List.flatMap_pure_eq_map]
    refine List.flatMap_congr fun f member => ?_
    rw [exportCall?_enumExport plain (legible f (of_mem_exportedEnums member).2.1).plain]
    rfl
  have lines : (tableLines names fields dialect options).flatMap exportCalls = [] :=
    List.flatMap_eq_nil_iff.2 fun line member => exportCalls_tableLines oneLine member
  have whole := byLine_definitions (fun line => (exportCall? line).toList) plain legible dialect
    options
  unfold exportCalls at lines ⊢
  rw [whole, enums, lines, exportCall?_tableOpening plain,
    show exportCall? tableEnd = none from by decide]
  rfl

end Schema

end Groundwork
