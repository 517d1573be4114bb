import Groundwork.Proofs.Schema.Statement
import Groundwork.Proofs.Schema.Table

/-!
# The place of a generated table

A generated table is recognised where it stands, to its last line and no further, and it is the
first block of its table if no line before it opens one (`find?_tableExport`).
-/

namespace Groundwork.Schema

open Text

variable {names : ModelNames} {fields : List Field}

theorem ofLines_closingLine? : OfLines closingLine? := by
  intro before s inside
  simp [closingLine?, inside]

theorem closingLine?_space (before : Option Char) (s : Text) :
    closingLine? before (' ' :: s) = none := by
  unfold closingLine?
  split <;> rfl

/-- The last line of a table is recognised. -/
theorem closingLine?_tableEnd {s : Text} (ends : atLineEnd s = true) :
    closingLine? (some '\n') (tableEnd ++ s) = some (tableEnd, s) :=
  closingLine?_eq_some_iff.2 ⟨rfl, {
    bracket := '\x7d', parens := [')'], semicolon := [';'], blanks := []
    bracket_closes := .inl rfl
    parens_nonempty := by simp
    parens_close := rfl
    semicolon_single := .inr rfl
    blanks_blank := rfl }, rfl, rfl, ends⟩

theorem afterTableHeader?_tableHeader (plain : names.Plain) (dialect : Dialect) (rest : Text) :
    afterTableHeader? names.table (tableHeader names dialect ++ rest) = some rest := by
  have builder : dialect.tableBuilder.all isWord = true ∧
      isTableWord dialect.tableBuilder = true := by
    cases dialect <;> decide
  refine afterTableHeader?_eq_some_iff.2 ⟨{
    word := names.camelPlural, gap := " ", space := " ", builder := dialect.tableBuilder,
    indent := [], opening := '"', closing := '"'
    word_nonempty := plain.nonempty
    word_letters := all_isWord_of_plain plain.camelPlural
    gap_blank := rfl, space_blank := rfl
    builder_letters := builder.1
    builder_table := builder.2
    indent_blank := rfl, opening_quote := rfl, closing_quote := rfl }, ?_⟩
  unfold tableHeader TableHeader.text
  simp

/-- The closing line of a table is the first one after its header. -/
theorem search_closingLine? (oneLine : OneLineModel names fields) (dialect : Dialect)
    (options : Options) {s : Text} (ends : atLineEnd s = true) :
    search closingLine? (some '"')
        (tableBody names fields dialect options ++ '\n' :: (tableEnd ++ s)) =
      some (tableBody names fields dialect options ++ ['\n'], tableEnd, s) := by
  refine search_eq_some_iff.2 ⟨tableEnd ++ s, by simp, ?_, ?_⟩
  · exact ofLines_closingLine?.failsWithin_indented closingLine?_space rfl
      (isIndented_tableBody oneLine dialect options)
  · rw [charBefore_concat]
    exact closingLine?_tableEnd ends

/-- A generated table is recognised as a whole. -/
theorem tableBlockAt?_tableExport (oneLine : OneLineModel names fields) (dialect : Dialect)
    (options : Options) {before : Option Char} (begins : beginsLine before = true) {s : Text}
    (ends : atLineEnd s = true) :
    tableBlockAt? names.table before (tableExport names fields dialect options ++ s) =
      some (tableExport names fields dialect options, s) := by
  have text : tableExport names fields dialect options ++ s = tableHeader names dialect ++
      (tableBody names fields dialect options ++ '\n' :: (tableEnd ++ s)) := by
    simp [tableExport_eq]
  unfold tableBlockAt?
  rw [text]
  simp only [begins, Bool.not_true, Bool.false_eq_true, if_false,
    afterTableHeader?_tableHeader oneLine.spellings,
    search_closingLine? oneLine dialect options ends, Option.bind_eq_bind, Option.bind_some,
    Option.pure_def]
  rw [tableExport_eq]
  simp

/-! ## The first block -/

theorem tableBlockAt?_of_headerAt? {table s : Text} {before : Option Char}
    (fails : headerAt? table before s = none) : tableBlockAt? table before s = none := by
  unfold headerAt? at fails
  unfold tableBlockAt?
  cases begins : beginsLine before with
  | false => rfl
  | true =>
    simp only [begins, if_true] at fails
    simp [fails]

theorem exports_tableExport (names : ModelNames) (fields : List Field) (dialect : Dialect)
    (options : Options) (s : Text) : Exports (tableExport names fields dialect options ++ s) := by
  rw [tableExport_eq]
  unfold tableHeader
  simp only [List.append_assoc]
  exact .inr (export_of_constant _)

/-- A generated table with no opening of its block before it is the place of the table. -/
theorem find?_tableExport (oneLine : OneLineModel names fields) (dialect : Dialect)
    (options : Options) {p s : Text} (begins : beginsLine (charBefore none p) = true)
    (free : Free (headerAt? names.table) p) (ends : atLineEnd s = true) :
    TableSite.find? (p ++ (tableExport names fields dialect options ++ s)) names.table =
      some ⟨p, tableExport names fields dialect options, s⟩ := by
  have noFeed : '\n' ∉ names.table := oneLine.spellings.table.not_mem rfl
  have fails := (recognisesExports_headerAt? noFeed).failsWithin begins free
    (exports_tableExport names fields dialect options s)
  have found := search_eq_some_iff.2 ⟨_, rfl, fun a b cut nonempty =>
    tableBlockAt?_of_headerAt? (fails a b cut nonempty),
    tableBlockAt?_tableExport oneLine dialect options begins ends⟩
  unfold TableSite.find?
  rw [found]
  rfl

/-! ## Text of a table that belongs to nothing else -/

variable {recognise : Option Char → Text → Option Text}

/-- What a table is exported as. -/
theorem tableExport_append (names : ModelNames) (fields : List Field) (dialect : Dialect)
    (options : Options) (s : Text) :
    tableExport names fields dialect options ++ s = "export const " ++ (names.camelPlural ++
      (" = " ++ (dialect.tableBuilder ++ ("(" ++ ('"' :: (names.table ++ '"' ::
        (tableBody names fields dialect options ++ '\n' :: (tableEnd ++ s)))))))) := by
  rw [tableExport_eq]
  unfold tableHeader
  simp

theorem tableBuilder_letters (dialect : Dialect) :
    dialect.tableBuilder ≠ [] ∧ dialect.tableBuilder.all isWord = true := by
  cases dialect <;> decide

/-- A quoted plain name is read in one way only. -/
theorem eq_of_quoted {name table indent s rest : Text} {opening closing : Char}
    (namePlain : Plain name) (tablePlain : Plain table) (blank : indent.all isBlank = true)
    (opens : isQuote opening = true) (closes : isQuote closing = true)
    (same : '"' :: (name ++ '"' :: s) = indent ++ opening :: (table ++ closing :: rest)) :
    name = table := by
  have mark : isPlain closing = false := by
    simp only [isQuote, Bool.or_eq_true, decide_eq_true_eq] at closes
    rcases closes with mark | mark <;> rw [mark] <;> decide
  obtain ⟨-, quoted⟩ := run_unique (p := isBlank) (a := []) same rfl
    ((stops_cons _ _ _).2 (by decide)) blank
    ((stops_cons _ _ _).2 (not_isBlank_of_isQuote opens))
  exact (run_unique (p := isPlain) (List.cons.inj quoted).2 (List.all_eq_true.2 namePlain)
    ((stops_cons _ _ _).2 (by decide)) (List.all_eq_true.2 tablePlain)
    ((stops_cons _ _ _).2 mark)).1

/-- The opening of a table's block opens no block of another table. -/
theorem headerAt?_tableExport_of_ne (plain : names.Plain) (dialect : Dialect) (options : Options)
    {table : Text} (tablePlain : Plain table) (other : names.table ≠ table) (before : Option Char)
    (s : Text) : headerAt? table before (tableExport names fields dialect options ++ s) = none := by
  rw [Option.eq_none_iff_forall_ne_some]
  intro rest found
  obtain ⟨-, h, same⟩ := headerAt?_eq_some_iff.1 found
  rw [tableExport_append] at same
  obtain ⟨-, paren⟩ := h.parts (all_isWord_of_plain plain.camelPlural)
    (tableBuilder_letters dialect).1 (tableBuilder_letters dialect).2 same
  exact other (eq_of_quoted plain.table tablePlain h.indent_blank h.opening_quote
    h.closing_quote paren)

/-- The export of a table is not the export of an enum. -/
theorem afterEnumExport?_tableExport (plain : names.Plain) (dialect : Dialect) (options : Options)
    {name : Text} (letters : name.all isWord = true) (before : Option Char) (s : Text) :
    afterEnumExport? name before (tableExport names fields dialect options ++ s) = none := by
  rw [Option.eq_none_iff_forall_ne_some]
  intro rest found
  obtain ⟨-, e, tail, same, -⟩ := afterEnumExport?_eq_some_iff.1 found
  rw [tableExport_append] at same
  obtain ⟨-, builder⟩ := e.parts (all_isWord_of_plain plain.camelPlural)
    (tableBuilder_letters dialect).1 (tableBuilder_letters dialect).2 letters same
  cases dialect <;> revert builder <;> decide

/-- A recogniser of exports finds nothing in a table that it does not take for its own. -/
theorem inert_tableExport (exports : RecognisesExports recognise)
    (oneLine : OneLineModel names fields) {dialect : Dialect} {options : Options}
    (fails : ∀ before s, recognise before (tableExport names fields dialect options ++ s) = none) :
    Inert recognise (tableExport names fields dialect options) := by
  intro before s
  have start := fails before s
  have quote : charBefore before (tableHeader names dialect) = some '"' := by
    unfold tableHeader
    rw [show ("\"" : Text) = ['"'] from rfl, charBefore_concat]
  have noFeed : '\n' ∉ tableHeader names dialect := by
    have camel := oneLine.spellings.camelPlural.not_mem (c := '\n') rfl
    have table := oneLine.spellings.table.not_mem (c := '\n') rfl
    have builder := not_mem_feed_of_all_isWord (tableBuilder_letters dialect).2
    unfold tableHeader
    simp [camel, table, builder]
  rw [tableExport_eq] at start ⊢
  rw [show tableBody names fields dialect options ++ '\n' :: tableEnd =
    (tableBody names fields dialect options ++ ['\n']) ++ tableEnd by simp] at start ⊢
  refine failsWithin_append.2 ⟨?_, failsWithin_append.2 ⟨?_, ?_⟩⟩
  · exact exports.lines.failsWithin_line noFeed fun _ => by simpa using start
  · rw [quote]
    exact exports.lines.failsWithin_indented (fun before s => exports.eq_none (by decide) before s)
      rfl (isIndented_tableBody oneLine dialect options)
  · exact exports.lines.failsWithin_line (by decide) fun _ => exports.eq_none (by decide) _ _

/-! ## Names of tables -/

theorem lastWord_tableExport (names : ModelNames) (fields : List Field) (dialect : Dialect)
    (options : Options) : lastWord [] (tableExport names fields dialect options) = [] := by
  rw [tableExport_eq, lastWord_append, ← List.singleton_append, ← List.append_assoc,
    lastWord_append]
  rfl

/-- The name of a table is the one that it is opened with. -/
theorem afterTableName?_isSome_iff {name table : Text} (namePlain : Plain name)
    (tablePlain : Plain table) (rest : Text) :
    (afterTableName? table ('"' :: (name ++ '"' :: rest))).isSome = true ↔ name = table := by
  rw [Option.isSome_iff_exists]
  simp only [afterTableName?_eq_some_iff]
  constructor
  · rintro ⟨_, indent, opening, closing, blank, opens, closes, same⟩
    exact eq_of_quoted namePlain tablePlain blank opens closes same
  · rintro rfl
    exact ⟨rest, [], '"', '"', rfl, rfl, rfl, rfl⟩

/-- The first call of a table is that of its builder, and no other call builds a table. -/
theorem callsAfter_tableExport (inline : InlineModel names fields) (dialect : Dialect)
    (options : Options) : ∃ rest,
      callsAfter [] (tableExport names fields dialect options) =
        (dialect.tableBuilder, '"' :: (names.table ++ '"' :: rest)) ::
          callsAfter [] ('"' :: (names.table ++ '"' :: rest)) ∧
      ∀ call ∈ callsAfter [] ('"' :: (names.table ++ '"' :: rest)),
        isTableWord call.1 = false := by
  have camel := inline.spellings.camelPlural.not_mem (c := '(') rfl
  obtain ⟨rest, text⟩ : ∃ rest, tableExport names fields dialect options =
      "export const " ++ names.camelPlural ++ " =" ++ [' '] ++ (dialect.tableBuilder ++ '(' ::
        ('"' :: (names.table ++ '"' :: rest))) := by
    have append := tableExport_append names fields dialect options []
    rw [List.append_nil] at append
    exact ⟨_, append.trans (by simp; rfl)⟩
  have calls : callsAfter [] (tableExport names fields dialect options) =
      (dialect.tableBuilder, '"' :: (names.table ++ '"' :: rest)) ::
        callsAfter [] ('"' :: (names.table ++ '"' :: rest)) := by
    rw [text, callsAfter_skip (by simp [camel]) (by decide),
      callsAfter_call (tableBuilder_letters dialect).2]
  refine ⟨rest, calls, fun call member => ?_⟩
  have called := calledNames_tableExport inline dialect options
  rw [calledNames, calls, List.map_cons] at called
  refine not_isTableWord_of_mem_flatMap inline dialect options call.1 ?_
  rw [← (List.cons.inj called).2]
  exact List.mem_map_of_mem member

/-- A generated table adds its own name to the tables of a text. -/
theorem hasTable_tableExport_append (inline : InlineModel names fields) (dialect : Dialect)
    (options : Options) {table : Text} (plain : Plain table) (s : Text) :
    hasTable (tableExport names fields dialect options ++ s) table = true ↔
      names.table = table ∨ hasTable s table = true := by
  have builder : isTableWord dialect.tableBuilder = true := by cases dialect <;> decide
  obtain ⟨rest, calls, others⟩ := callsAfter_tableExport inline dialect options
  rw [hasTable_iff_calls, hasTable_iff_calls, callsAfter_append, lastWord_tableExport, calls,
    List.map_cons, List.cons_append]
  constructor
  · rintro ⟨call, member, stem, named⟩
    rcases List.mem_cons.1 member with rfl | member
    · left
      rw [← afterTableName?_isSome_iff inline.spellings.table plain (rest ++ s)]
      simpa using named
    · rcases List.mem_append.1 member with inTable | later
      · obtain ⟨own, listed, rfl⟩ := List.mem_map.1 inTable
        simp [others own listed] at stem
      · exact .inr ⟨call, later, stem, named⟩
  · rintro (same | ⟨call, member, found⟩)
    · refine ⟨_, List.mem_cons_self, builder, ?_⟩
      have named := (afterTableName?_isSome_iff inline.spellings.table plain (rest ++ s)).2
        same
      simpa using named
    · exact ⟨call, List.mem_cons_of_mem _ (List.mem_append_right _ member), found⟩

end Groundwork.Schema
