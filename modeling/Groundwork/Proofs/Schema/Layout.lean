import Groundwork.Proofs.Schema.Replacement
import Groundwork.Proofs.Schema.Surroundings

/-!
# Layouts of tables that can be replaced

A table is looked up in two ways: `hasTable` asks for a call of some builder with the table's name,
and a replacement needs the whole block. `HasBlock` says how a file has to be laid out for the
block: a line begins with the export of the table, and a later line closes the call and holds
nothing else. A block makes the table known (`HasBlock.hasTable`), but a table that is known need
not have a block. Where a model was generated it has one, whatever stands around it
(`hasBlock_definitions`).
-/

namespace Groundwork.Schema

open Text

variable {content table : Text} {names : ModelNames} {fields : List Field} {dialect : Dialect}
  {options : Options}

/-- The file has a block of the table: a line begins with the table's export, and a later line
    closes it. -/
def HasBlock (content table : Text) : Prop :=
  ∃ (front : Text) (h : TableHeader) (inside : Text) (c : ClosingLine) (back : Text),
    content = front ++ (h.text table ++ (inside ++ '\n' :: (c.text ++ back))) ∧
      beginsLine (charBefore none front) = true ∧ atLineEnd back = true

/-- A block is recognised where it begins, perhaps to an earlier line that closes it. -/
theorem tableBlockAt?_isSome {before : Option Char} (begins : beginsLine before = true)
    (h : TableHeader) (inside : Text) (c : ClosingLine) {back : Text}
    (ends : atLineEnd back = true) :
    (tableBlockAt? table before
      (h.text table ++ (inside ++ '\n' :: (c.text ++ back)))).isSome = true := by
  have closes : (search closingLine? (some '"') (inside ++ '\n' :: (c.text ++ back))).isSome =
      true := by
    refine search_isSome_iff.2 ⟨inside ++ ['\n'], c.text ++ back, by simp, ?_⟩
    rw [charBefore_concat, c.closes rfl ends]
    rfl
  have header : afterTableHeader? table (h.text table ++ (inside ++ '\n' :: (c.text ++ back))) =
      some (inside ++ '\n' :: (c.text ++ back)) := afterTableHeader?_eq_some_iff.2 ⟨h, rfl⟩
  obtain ⟨⟨front, line, rest⟩, found⟩ := Option.isSome_iff_exists.1 closes
  unfold tableBlockAt?
  simp [begins, header, found]

/-- The place of a table is found exactly if the file has a block of it. -/
theorem isSome_find?_iff :
    (TableSite.find? content table).isSome = true ↔ HasBlock content table := by
  unfold TableSite.find?
  rw [Option.isSome_map, search_isSome_iff]
  constructor
  · rintro ⟨front, s, rfl, here⟩
    obtain ⟨⟨block, back⟩, here⟩ := Option.isSome_iff_exists.1 here
    obtain ⟨begins, h, inside, c, rfl, rfl, ends, -⟩ := tableBlockAt?_eq_some_iff.1 here
    exact ⟨front, h, inside, c, back, by simp, begins, ends⟩
  · rintro ⟨front, h, inside, c, back, rfl, begins, ends⟩
    exact ⟨front, _, rfl, tableBlockAt?_isSome begins h inside c ends⟩

/-- The export of a table calls its builder. -/
theorem hasTable_header (front : Text) (h : TableHeader) (rest : Text) :
    hasTable (front ++ (h.text table ++ rest)) table = true := by
  obtain ⟨stem, nonempty, same⟩ := hasStem_iff.1 h.builder_table
  have letters := h.builder_letters
  rw [same, List.all_append, Bool.and_eq_true] at letters
  rw [hasTable, search_isSome_iff]
  refine ⟨front ++ ("export const " ++ (h.word ++ (h.gap ++ '=' :: (h.space ++ stem)))),
    "Table(" ++ (h.indent ++ h.opening :: (table ++ h.closing :: rest)), ?_, ?_⟩
  · rw [h.text_append, same]
    simp
  · refine tableCallAt?_isSome_iff.2 ⟨?_, _, ⟨h.indent, h.opening, h.closing, h.indent_blank,
      h.opening_quote, h.closing_quote, rfl⟩, rest, by simp⟩
    obtain ⟨stem, c, rfl⟩ := (List.eq_nil_or_concat stem).resolve_left nonempty
    rw [List.concat_eq_append, List.all_append, Bool.and_eq_true] at letters
    have before : charBefore none (front ++ ("export const " ++ (h.word ++ (h.gap ++
        '=' :: (h.space ++ stem.concat c))))) = some c := by
      rw [show front ++ ("export const " ++ (h.word ++ (h.gap ++ '=' :: (h.space ++
        stem.concat c)))) = front ++ ("export const " ++ (h.word ++ (h.gap ++
          '=' :: (h.space ++ stem)))) ++ [c] by simp, charBefore_concat]
    rw [before]
    simpa using letters.1.2

/-- A file with a block of a table has the table. -/
theorem HasBlock.hasTable (block : HasBlock content table) :
    Schema.hasTable content table = true := by
  obtain ⟨front, h, inside, c, back, rfl, -, -⟩ := block
  exact hasTable_header front h _

/-- A model that was generated has a block, whatever lines stand before and after it. -/
theorem hasBlock_definitions (accepted : AcceptedModel names fields) (dialect : Dialect)
    (options : Options) {p s : Text} (begins : beginsLine (charBefore none p) = true)
    (ends : atLineEnd s = true) :
    HasBlock (p ++ (definitions names fields dialect options ++ s)) names.table := by
  have start : beginsLine (charBefore none (p ++ exportBlocks names
      (exportedEnums fields dialect))) = true := by
    rw [charBefore_append]
    exact beginsLine_exportBlocks begins names _
  obtain ⟨-, h, inside, c, same, -, -, -⟩ := tableBlockAt?_eq_some_iff.1
    (tableBlockAt?_tableExport accepted.oneLineModel dialect options start ends)
  exact ⟨_, h, inside, c, s, by rw [definitions_eq, same]; simp, start, ends⟩

/-! ## Replacing a model -/

theorem replace_eq_of_hasBlock (block : HasBlock content names.table) :
    ∃ result, replace content names fields dialect options = .ok result :=
  ⟨_, replace_eq_ok_iff.2 ⟨isSome_find?_iff.2 block, rfl⟩⟩

theorem replace_eq_of_not_hasBlock (noBlock : ¬ HasBlock content names.table) :
    replace content names fields dialect options = .error (.tableNotFound names.table) := by
  have none : TableSite.find? content names.table = none := by
    rwa [← Option.not_isSome_iff_eq_none, isSome_find?_iff]
  unfold replace locate
  rw [none]
  rfl

end Groundwork.Schema
