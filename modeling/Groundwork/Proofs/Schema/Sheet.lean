import Groundwork.Proofs.Schema.Catalogue
import Groundwork.Proofs.Schema.Regeneration

/-!
# Schema files as lists of exports

A schema file that was only generated is an import statement and a row of exports, whatever its
models call and however their enums are named. Creating a file, appending to it and replacing in it
act on the row: an enum that is dropped is taken out where its name stands first
(`dropEnumExport_text`), and the exports of a model that is replaced stand where the table of the
old one did (`replace_text`).
-/

namespace Groundwork.Schema

open Text

open Catalogue (opening ending inert_opening inert_ending beginsLine_opening atLineEnd_ending
  symbols_requiredImports)

/-- An export of a generated file. -/
inductive Export where
  | enum (names : ModelNames) (f : Field)
  | table (m : Model)

namespace Export

/-- The export as it is written. -/
def text (dialect : Dialect) : Export → Text
  | enum names f => enumExport names f
  | table m => tableExport m.names m.fields dialect m.options

/-- The name that is exported. -/
def name : Export → Text
  | enum names f => enumName names f
  | table m => m.names.camelPlural

/-- The name of an enum. -/
def enumName? : Export → Option Text
  | enum names f => some (enumName names f)
  | table _ => none

/-- The model of a table. -/
def model? : Export → Option Model
  | enum _ _ => none
  | table m => some m

/-- The table that is exported. -/
def table? (e : Export) : Option Text := e.model?.map Model.table

/-- The export keeps to the lines that it is given. -/
def OneLine : Export → Prop
  | enum names f => names.Plain ∧ f.OneLine
  | table m => OneLineModel m.names m.fields

end Export

/-- What a model exports: its enums, then its table. -/
def Model.exports (m : Model) (dialect : Dialect) : List Export :=
  (exportedEnums m.fields dialect).map (.enum m.names) ++ [.table m]

/-- The names of the enums that a model exports. -/
def Model.enumNames (m : Model) (dialect : Dialect) : List Text :=
  (exportedEnums m.fields dialect).map (enumName m.names)

theorem Model.definitions_eq_intercalate (m : Model) (dialect : Dialect) :
    m.definitions dialect =
      List.intercalate "\n\n" ((m.exports dialect).map (Export.text dialect)) := by
  unfold Model.definitions Schema.definitions Model.exports
  rw [enumExports_eq, List.map_append, List.map_map]
  rfl

theorem Model.exports_ne_nil (m : Model) (dialect : Dialect) : m.exports dialect ≠ [] := by
  simp [Model.exports]

theorem Model.oneLine_exports {m : Model} (oneLine : OneLineModel m.names m.fields)
    (dialect : Dialect) : ∀ e ∈ m.exports dialect, e.OneLine := by
  intro e member
  rcases List.mem_append.1 member with enum | table
  · obtain ⟨f, given, rfl⟩ := List.mem_map.1 enum
    exact ⟨oneLine.spellings, oneLine_of_mem_exportedEnums oneLine _ f given⟩
  · rw [List.mem_singleton.1 table]
    exact oneLine

theorem Model.filterMap_model?_exports (m : Model) (dialect : Dialect) :
    (m.exports dialect).filterMap Export.model? = [m] := by
  simp [Model.exports, Export.model?, List.filterMap_append, List.filterMap_map, Function.comp_def]

theorem Model.filterMap_enumName?_exports (m : Model) (dialect : Dialect) :
    (m.exports dialect).filterMap Export.enumName? = m.enumNames dialect := by
  simp [Model.exports, Model.enumNames, Export.enumName?, List.filterMap_append,
    List.filterMap_map, Function.comp_def]

/-- A generated schema file. -/
structure Sheet where
  /-- The builders that are imported. -/
  symbols : List Text
  exports : List Export

namespace Sheet

variable {sheet : Sheet} {dialect : Dialect} {name table : Text} {m : Model}

/-- The file as it is written. -/
def text (sheet : Sheet) (dialect : Dialect) : Text :=
  importStatement sheet.symbols dialect ++ "\n\n"
    ++ List.intercalate "\n\n" (sheet.exports.map (Export.text dialect)) ++ "\n"

/-- The models whose tables are exported. -/
def models (sheet : Sheet) : List Model := sheet.exports.filterMap Export.model?

/-- The names of the enums that are exported. -/
def enumNames (sheet : Sheet) : List Text := sheet.exports.filterMap Export.enumName?

/-- A sheet whose text can be taken apart again. -/
structure Sound (sheet : Sheet) : Prop where
  symbols : Symbols sheet.symbols
  imports : sheet.symbols ≠ []
  oneLine : ∀ e ∈ sheet.exports, e.OneLine
  /-- An enum is never the last export. -/
  ends : ∃ m, sheet.exports.getLast? = some (.table m)

/-! ## The text around some of the exports -/

theorem text_around (symbols : List Text) (dialect : Dialect) (earlier later : List Export)
    {middle : List Export} (nonempty : middle ≠ []) :
    (⟨symbols, earlier ++ (middle ++ later)⟩ : Sheet).text dialect =
      opening symbols dialect (earlier.map (Export.text dialect)) ++
        (List.intercalate "\n\n" (middle.map (Export.text dialect)) ++
          ending (later.map (Export.text dialect))) := by
  unfold text opening ending
  rw [List.map_append, List.map_append, intercalate_around _ _ _ (by simpa using nonempty)]
  simp

theorem text_cut {earlier later : List Export} {e : Export}
    (cut : sheet.exports = earlier ++ e :: later) (dialect : Dialect) :
    sheet.text dialect = opening sheet.symbols dialect (earlier.map (Export.text dialect)) ++
      (e.text dialect ++ ending (later.map (Export.text dialect))) := by
  have around := text_around sheet.symbols dialect earlier later (List.cons_ne_nil e [])
  rw [List.singleton_append, ← cut] at around
  simpa using around

theorem ending_cons (piece : Text) (later : List Text) :
    ending (piece :: later) = "\n\n" ++ (piece ++ ending later) := by
  simp [ending]

theorem ending_eq_intercalate {later : List Text} (nonempty : later ≠ []) :
    ending later = "\n\n" ++ (List.intercalate "\n\n" later ++ "\n") := by
  obtain ⟨piece, rest, rfl⟩ := List.exists_cons_of_ne_nil nonempty
  simp [ending, intercalate_cons]

theorem Sound.exports_ne_nil (sound : sheet.Sound) : sheet.exports ≠ [] := by
  intro none
  obtain ⟨m, last⟩ := sound.ends
  simp [none] at last

/-- What takes none of the exports of a sheet takes nothing of its text. -/
theorem Sound.inert_text (sound : sheet.Sound) {recognise : Option Char → Text → Option Text}
    (exports : RecognisesExports recognise)
    (inert : ∀ e ∈ sheet.exports, Inert recognise (e.text dialect)) :
    Inert recognise (sheet.text dialect) := by
  obtain ⟨e, later, given⟩ := List.exists_cons_of_ne_nil sound.exports_ne_nil
  rw [text_cut (show sheet.exports = [] ++ e :: later from given)]
  rw [given] at inert
  refine (inert_opening exports sound.symbols dialect (by simp)).append (.append ?_ ?_)
  · exact inert e (by simp)
  · exact inert_ending exports (List.forall_mem_map.2 fun other member =>
      inert other (List.mem_cons_of_mem _ member))

/-- A file that is created is a sheet with the exports of its model. -/
theorem create_eq_text (m : Model) (dialect : Dialect) :
    create m.names m.fields dialect m.options =
      (⟨m.imports dialect, m.exports dialect⟩ : Sheet).text dialect := by
  unfold create text
  rw [← m.definitions_eq_intercalate]
  rfl

/-- Merging imports changes the symbols of a sheet. -/
theorem mergeImports_text (sound : sheet.Sound) (dialect : Dialect) (exports : List Export)
    (added : List Text) :
    mergeImports ((⟨sheet.symbols, exports⟩ : Sheet).text dialect) added dialect =
      (⟨(sheet.symbols ++ added).eraseDups, exports⟩ : Sheet).text dialect := by
  unfold text
  simp only [List.append_assoc]
  exact mergeImports_importStatement sound.symbols dialect _ added

/-- Appending a model puts its exports at the end. -/
theorem append_text (sound : sheet.Sound) (m : Model) (dialect : Dialect) :
    append (sheet.text dialect) m.names m.fields dialect m.options =
      (⟨(sheet.symbols ++ m.imports dialect).eraseDups,
        sheet.exports ++ m.exports dialect⟩ : Sheet).text dialect := by
  have ends : endsWith "\n" (sheet.text dialect) = true := by
    rw [endsWith_iff]
    exact List.suffix_append _ _
  have longer : sheet.text dialect ++ "\n" ++ m.definitions dialect ++ "\n" =
      (⟨sheet.symbols, sheet.exports ++ m.exports dialect⟩ : Sheet).text dialect := by
    have around := text_around sheet.symbols dialect [] (m.exports dialect) sound.exports_ne_nil
    rw [ending_eq_intercalate (by simp [m.exports_ne_nil]), ← m.definitions_eq_intercalate,
      List.nil_append] at around
    rw [around]
    simp [text, opening]
  unfold append
  rw [ends]
  simp only [if_true]
  rw [show Schema.definitions m.names m.fields dialect m.options = m.definitions dialect from rfl,
    longer]
  exact mergeImports_text sound dialect _ _

/-! ## Dropping an enum -/

/-- The sheet without the first enum of a name. -/
def drop (sheet : Sheet) (name : Text) : Sheet :=
  { sheet with exports := sheet.exports.eraseP fun e => e.enumName? = some name }

/-- Dropping an enum changes nothing, or it takes the first export of its name out. -/
theorem drop_cases (sheet : Sheet) (name : Text) :
    ((∀ e ∈ sheet.exports, e.enumName? ≠ some name) ∧ sheet.drop name = sheet) ∨
    ∃ earlier names f later, sheet.exports = earlier ++ .enum names f :: later ∧
      enumName names f = name ∧ (∀ e ∈ earlier, e.enumName? ≠ some name) ∧
        sheet.drop name = ⟨sheet.symbols, earlier ++ later⟩ := by
  by_cases present : ∃ e ∈ sheet.exports, e.enumName? = some name
  · right
    obtain ⟨e, member, named⟩ := present
    obtain ⟨first, earlier, later, absent, here, cut, rest⟩ :=
      List.exists_of_eraseP (p := fun e => e.enumName? = some name) member (by simpa using named)
    cases first with
    | table m => simp [Export.enumName?] at here
    | enum names f =>
      refine ⟨earlier, names, f, later, cut, by simpa [Export.enumName?] using here, ?_, ?_⟩
      · simpa using absent
      · unfold drop
        rw [rest]
  · left
    have absent : ∀ e ∈ sheet.exports, e.enumName? ≠ some name := fun e member named =>
      present ⟨e, member, named⟩
    refine ⟨absent, ?_⟩
    unfold drop
    rw [List.eraseP_of_forall_not (by simpa using absent)]

theorem models_drop (sheet : Sheet) (name : Text) : (sheet.drop name).models = sheet.models := by
  rcases sheet.drop_cases name with ⟨-, same⟩ | ⟨earlier, names, f, later, cut, -, -, dropped⟩
  · rw [same]
  · rw [dropped, models, models, cut, List.filterMap_append, List.filterMap_append]
    rfl

theorem enumNames_drop (sheet : Sheet) (name : Text) :
    ((sheet.drop name).enumNames : Multiset Text) =
      (sheet.enumNames : Multiset Text).erase name := by
  rcases sheet.drop_cases name with ⟨absent, same⟩ | ⟨earlier, names, f, later, cut, rfl, -,
    dropped⟩
  · rw [same, Multiset.erase_of_notMem]
    intro member
    obtain ⟨e, given, named⟩ := List.mem_filterMap.1 (Multiset.mem_coe.1 member)
    exact absent e given named
  · have row : sheet.enumNames.Perm (enumName names f :: (earlier ++ later).filterMap
        Export.enumName?) := by
      unfold enumNames
      rw [cut, List.filterMap_append, List.filterMap_append]
      exact List.perm_middle
    rw [Multiset.coe_eq_coe.2 row, ← Multiset.cons_coe, Multiset.erase_cons_head, dropped,
      enumNames]

theorem Sound.drop (sound : sheet.Sound) (name : Text) : (sheet.drop name).Sound where
  symbols := sound.symbols
  imports := sound.imports
  oneLine e member := sound.oneLine e (List.mem_of_mem_eraseP member)
  ends := by
    obtain ⟨m, last⟩ := sound.ends
    refine ⟨m, ?_⟩
    rcases sheet.drop_cases name with ⟨-, same⟩ | ⟨earlier, names, f, later, cut, -, -, dropped⟩
    · rw [same, last]
    · rw [cut, List.getLast?_append] at last
      rw [dropped, List.getLast?_append]
      cases later with
      | nil => simp at last
      | cons e later => rwa [List.getLast?_cons_cons] at last

/-- Another export is not taken for the export of an enum. -/
theorem inert_afterEnumExport? {e : Export} (oneLine : e.OneLine) (letters : name.all isWord = true)
    (other : e.enumName? ≠ some name) (dialect : Dialect) :
    Inert (afterEnumExport? name) (e.text dialect) := by
  have exports := recognisesExports_afterEnumExport? (not_mem_feed_of_all_isWord letters)
  cases e with
  | enum names f =>
    have line := (isOneLine_iff.1 (isOneLine_enumExport oneLine.1 oneLine.2)).1
    refine exports.inert_line line fun before s => ?_
    exact afterEnumExport?_enumExport_of_ne oneLine.1 oneLine.2 letters
      (by simpa [Export.enumName?] using other) before s
  | table m =>
    exact inert_tableExport exports oneLine
      (afterEnumExport?_tableExport oneLine.spellings dialect m.options letters)

/-- Dropping the export of an enum from the text takes it out of the sheet. -/
theorem dropEnumExport_text (sound : sheet.Sound) (letters : name.all isWord = true)
    (dialect : Dialect) :
    dropEnumExport (sheet.text dialect) name = (sheet.drop name).text dialect := by
  have exports := recognisesExports_afterEnumExport? (not_mem_feed_of_all_isWord letters)
  have inert : ∀ e ∈ sheet.exports, e.enumName? ≠ some name →
      Inert (afterEnumExport? name) (e.text dialect) := fun e member other =>
    inert_afterEnumExport? (sound.oneLine e member) letters other dialect
  rcases sheet.drop_cases name with ⟨absent, same⟩ | ⟨earlier, names, f, later, cut, rfl, absent,
    dropped⟩
  · have free := sound.inert_text exports fun e member => inert e member (absent e member)
    unfold dropEnumExport
    rw [search_of_free exports (free none []), same]
  · obtain ⟨m, last⟩ := sound.ends
    cases later with
    | nil => simp [cut] at last
    | cons next later =>
      have oneLine := sound.oneLine (.enum names f) (by simp [cut])
      have free := inert_opening exports sound.symbols dialect (List.forall_mem_map.2
        fun e member => inert e (by simp [cut, member]) (absent e member))
      have block : (Export.enum names f).text dialect ++
          ending ((next :: later).map (Export.text dialect)) = exportBlock names f ++
            (next.text dialect ++ ending (later.map (Export.text dialect))) := by
        rw [List.map_cons, ending_cons]
        simp [exportBlock, Export.text]
      rw [text_cut cut, block, dropEnumExport_exportBlock oneLine.1 oneLine.2
        (beginsLine_opening _ _ _) (free none []), dropped, text_cut rfl]

/-- The sheet without the first enum of each name. -/
def dropAll (sheet : Sheet) (names : List Text) : Sheet := names.foldl drop sheet

theorem models_dropAll (sheet : Sheet) (names : List Text) :
    (sheet.dropAll names).models = sheet.models := by
  unfold dropAll
  induction names generalizing sheet with
  | nil => rfl
  | cons name names ih => rw [List.foldl_cons, ih, models_drop]

theorem enumNames_dropAll (sheet : Sheet) (names : List Text) :
    ((sheet.dropAll names).enumNames : Multiset Text) = sheet.enumNames - names := by
  unfold dropAll
  induction names generalizing sheet with
  | nil => exact (Multiset.sub_zero _).symm
  | cons name names ih =>
    rw [List.foldl_cons, ih, enumNames_drop, ← Multiset.cons_coe, Multiset.sub_cons]

theorem symbols_dropAll (sheet : Sheet) (names : List Text) :
    (sheet.dropAll names).symbols = sheet.symbols := by
  unfold dropAll
  induction names generalizing sheet with
  | nil => rfl
  | cons name names ih => rw [List.foldl_cons, ih]; rfl

theorem dropAll_text (sound : sheet.Sound) {names : List Text}
    (letters : ∀ name ∈ names, name.all isWord = true) (dialect : Dialect) :
    (sheet.dropAll names).Sound ∧
      names.foldl dropEnumExport (sheet.text dialect) = (sheet.dropAll names).text dialect := by
  unfold dropAll
  induction names generalizing sheet with
  | nil => exact ⟨sound, rfl⟩
  | cons name names ih =>
    rw [List.foldl_cons, List.foldl_cons, dropEnumExport_text sound (letters name (by simp))]
    exact ih (sound.drop name) fun other member => letters other (List.mem_cons_of_mem _ member)

/-! ## The place of a table -/

/-- An export that makes another table opens no block of a table. -/
theorem inert_headerAt? {e : Export} (oneLine : e.OneLine) (plain : Plain table)
    (other : e.table? ≠ some table) (dialect : Dialect) :
    Inert (headerAt? table) (e.text dialect) := by
  have exports := recognisesExports_headerAt? (plain.not_mem (c := '\n') rfl)
  cases e with
  | enum names f =>
    have line := (isOneLine_iff.1 (isOneLine_enumExport oneLine.1 oneLine.2)).1
    exact exports.inert_line line (headerAt?_enumExport oneLine.1 oneLine.2 table)
  | table m =>
    exact inert_tableExport exports oneLine (headerAt?_tableExport_of_ne oneLine.spellings dialect
      m.options plain fun same => other (congrArg some same))

/-- A model stands where its table is exported first. -/
theorem exists_cut {old : Model} (found : sheet.models.find? (·.table = table) = some old) :
    ∃ earlier later, sheet.exports = earlier ++ .table old :: later ∧ old.table = table ∧
      ∀ e ∈ earlier, e.table? ≠ some table := by
  unfold models at found
  rw [List.find?_filterMap, Option.bind_eq_some_iff] at found
  obtain ⟨e, first, here⟩ := found
  obtain ⟨named, earlier, later, cut, absent⟩ := List.find?_eq_some_iff_append.1 first
  cases e with
  | enum names f => cases here
  | table m =>
    obtain rfl := Option.some.inj here
    refine ⟨earlier, later, cut, by simpa [Export.model?] using named, fun e member same => ?_⟩
    have other := absent e member
    unfold Export.table? at same
    cases given : e.model? <;> simp_all

/-- A table is found in the text where its model stands in the sheet. -/
theorem find?_text (sound : sheet.Sound) (plain : Plain table) {earlier later : List Export}
    {old : Model} (cut : sheet.exports = earlier ++ .table old :: later) (same : old.table = table)
    (absent : ∀ e ∈ earlier, e.table? ≠ some table) (dialect : Dialect) :
    TableSite.find? (sheet.text dialect) table =
      some ⟨opening sheet.symbols dialect (earlier.map (Export.text dialect)),
        tableExport old.names old.fields dialect old.options,
        ending (later.map (Export.text dialect))⟩ := by
  have exports := recognisesExports_headerAt? (plain.not_mem (c := '\n') rfl)
  have oneLine : OneLineModel old.names old.fields := sound.oneLine (.table old) (by simp [cut])
  have free := inert_opening exports sound.symbols dialect (List.forall_mem_map.2 fun e member =>
    inert_headerAt? (sound.oneLine e (by simp [cut, member])) plain (absent e member) dialect)
  rw [text_cut cut]
  subst same
  exact find?_tableExport oneLine dialect old.options (beginsLine_opening _ _ _) (free none [])
    (atLineEnd_ending _)

/-- A table without a model in the sheet is not found in the text. -/
theorem find?_text_of_none (sound : sheet.Sound) (plain : Plain table)
    (absent : sheet.models.find? (·.table = table) = none) (dialect : Dialect) :
    TableSite.find? (sheet.text dialect) table = none := by
  have exports := recognisesExports_headerAt? (plain.not_mem (c := '\n') rfl)
  have inert : ∀ e ∈ sheet.exports, Inert (headerAt? table) (e.text dialect) := by
    refine fun e member => inert_headerAt? (sound.oneLine e member) plain (fun same => ?_) dialect
    obtain ⟨m, given, named⟩ := Option.map_eq_some_iff.1 same
    have other := List.find?_eq_none.1 absent m (List.mem_filterMap.2 ⟨e, member, given⟩)
    exact other (by simpa using named)
  have free := sound.inert_text exports inert
  unfold TableSite.find?
  rw [Option.map_eq_none_iff, search_eq_none_iff]
  intro front s cut
  exact tableBlockAt?_of_headerAt? (search_eq_none_iff.1 (search_of_free exports (free none []))
    front s cut)

/-- A file that has a model's table says so. -/
theorem hasTable_text (sound : sheet.Sound) {old : Model} (member : old ∈ sheet.models)
    (dialect : Dialect) : hasTable (sheet.text dialect) old.table = true := by
  obtain ⟨e, listed, given⟩ := List.mem_filterMap.1 member
  cases e with
  | enum names f => cases given
  | table m =>
    obtain rfl := Option.some.inj given
    obtain ⟨earlier, later, cut⟩ := List.append_of_mem listed
    have oneLine : OneLineModel m.names m.fields := sound.oneLine _ listed
    have plain := oneLine.spellings.table
    obtain ⟨front, rest, text⟩ : ∃ front rest, sheet.text dialect =
        front ++ ' ' :: (dialect.tableBuilder ++ '(' :: '"' :: (m.table ++ '"' :: rest)) := by
      refine ⟨opening sheet.symbols dialect (earlier.map (Export.text dialect)) ++
        ("export const " ++ (m.names.camelPlural ++ " =")),
        tableBody m.names m.fields dialect m.options ++ '\n' :: (tableEnd ++
          ending (later.map (Export.text dialect))), ?_⟩
      rw [text_cut cut, Export.text, tableExport_append]
      simp [Model.table]
    rw [hasTable_iff_calls, text]
    refine ⟨_, mem_callsAfter_word (by decide) (tableBuilder_letters dialect).2 front _, ?_, ?_⟩
    · show isTableWord dialect.tableBuilder = true
      cases dialect <;> decide
    · exact (afterTableName?_isSome_iff plain plain rest).2 rfl

/-! ## Replacing a model -/

/-- A model that is replaced in the text: the enums that its table calls are dropped, and the
    exports of the new model stand in place of the old table. -/
theorem replace_text (sound : sheet.Sound) (plain : Plain m.table) {result : Text}
    (replaced : replace (sheet.text dialect) m.names m.fields dialect m.options = .ok result) :
    ∃ old earlier later, sheet.models.find? (·.table = m.table) = some old ∧
      (sheet.dropAll (enumCalls (tableExport old.names old.fields dialect old.options))).exports =
        earlier ++ .table old :: later ∧ (∀ e ∈ earlier, e.table? ≠ some m.table) ∧
      result = (⟨(sheet.symbols ++ m.imports dialect).eraseDups,
        earlier ++ (m.exports dialect ++ later)⟩ : Sheet).text dialect := by
  obtain ⟨found, rfl⟩ := replace_eq_ok_iff.1 replaced
  cases given : sheet.models.find? (·.table = m.table) with
  | none =>
    rw [show m.names.table = m.table from rfl, find?_text_of_none sound plain given] at found
    cases found
  | some old =>
    obtain ⟨_, _, cut, same, absent⟩ := exists_cut given
    have site := find?_text sound plain cut same absent dialect
    generalize called : enumCalls (tableExport old.names old.fields dialect old.options) = names
    have letters : ∀ name ∈ names, name.all isWord = true := by
      rw [← called]
      exact fun _ => all_isWord_of_mem_enumCalls
    obtain ⟨soundRest, rest⟩ := dropAll_text sound letters dialect
    have givenRest : (sheet.dropAll names).models.find? (·.table = m.table) = some old := by
      rw [models_dropAll, given]
    obtain ⟨earlier, later, cutRest, -, absentRest⟩ := exists_cut givenRest
    refine ⟨old, earlier, later, rfl, by rw [called, cutRest], absentRest, ?_⟩
    have siteRest := find?_text soundRest plain cutRest same absentRest dialect
    unfold swapped replaceBlock withoutCalledEnums
    rw [show m.names.table = m.table from rfl, site]
    dsimp only
    rw [called, rest, siteRest]
    dsimp only
    rw [symbols_dropAll, show Schema.definitions m.names m.fields dialect m.options =
      m.definitions dialect from rfl, m.definitions_eq_intercalate, List.append_assoc,
      ← text_around _ _ _ _ (m.exports_ne_nil dialect)]
    exact mergeImports_text sound dialect _ _

/-! ## The names of a file -/

theorem exportNames_text_export {e : Export} (oneLine : e.OneLine) (dialect : Dialect) :
    exportNames none (e.text dialect) = [e.name] := by
  cases e with
  | enum names f => exact exportNames_enumExport oneLine.1 oneLine.2
  | table m => exact exportNames_tableExport oneLine dialect m.options

theorem exportNames_opening {symbols : List Text} (good : Symbols symbols) (dialect : Dialect)
    (s : Text) : exportNames none (opening symbols dialect [] ++ s) = exportNames none s := by
  obtain ⟨rest, statement⟩ : ∃ rest, importStatement symbols dialect = 'i' :: rest := ⟨_, rfl⟩
  have noFeed : '\n' ∉ 'i' :: rest := by
    rw [← statement]
    exact not_mem_importStatement good dialect rfl
  have silent : exportNames none (opening symbols dialect []) = [] := by
    unfold opening
    rw [statement, List.cons_append, exportNames_of_ne (by decide) noFeed,
      exportNames_atLineEnd rfl]
    rfl
  rw [exportNames_append_lines (beginsLine_opening _ _ _), silent, List.nil_append]

theorem exportNames_ending {later : List Export} (oneLine : ∀ e ∈ later, e.OneLine)
    (dialect : Dialect) :
    exportNames none (ending (later.map (Export.text dialect))) = later.map Export.name := by
  induction later with
  | nil => rfl
  | cons e later ih =>
    have here := exportNames_text_export (oneLine e (by simp)) dialect
    have rest := ih fun other member => oneLine other (List.mem_cons_of_mem _ member)
    rw [List.map_cons, ending_cons, exportNames_append_lines rfl,
      exportNames_append_detached (detached_of_atLineEnd (atLineEnd_ending _)), here,
      exportNames_atLineEnd (atLineEnd_ending _), rest]
    rfl

/-- The text of a sheet exports what the sheet does. -/
theorem exportNames_text (sound : sheet.Sound) (dialect : Dialect) :
    exportNames none (sheet.text dialect) = sheet.exports.map Export.name := by
  obtain ⟨e, later, given⟩ := List.exists_cons_of_ne_nil sound.exports_ne_nil
  have oneLine := sound.oneLine
  rw [given] at oneLine
  rw [text_cut (show sheet.exports = [] ++ e :: later from given), List.map_nil,
    exportNames_opening sound.symbols,
    exportNames_append_detached (detached_of_atLineEnd (atLineEnd_ending _)),
    exportNames_text_export (oneLine e (by simp)), exportNames_atLineEnd (atLineEnd_ending _),
    exportNames_ending fun other member => oneLine other (List.mem_cons_of_mem _ member), given]
  rfl

/-- The text of a sheet has no carriage returns. -/
theorem not_mem_return_text (sound : sheet.Sound) (dialect : Dialect) :
    '\r' ∉ sheet.text dialect := by
  have statement : '\r' ∉ importStatement sheet.symbols dialect :=
    not_mem_importStatement sound.symbols dialect rfl
  have exports : '\r' ∉ List.intercalate "\n\n" (sheet.exports.map (Export.text dialect)) := by
    intro member
    rcases mem_intercalate member with gap | ⟨piece, listed, inside⟩
    · simp at gap
    · obtain ⟨e, given, rfl⟩ := List.mem_map.1 listed
      have oneLine := sound.oneLine e given
      cases e with
      | enum names f =>
        exact (isOneLine_iff.1 (isOneLine_enumExport oneLine.1 oneLine.2)).2 inside
      | table m => exact not_mem_return_tableExport oneLine dialect m.options inside
  unfold text
  simp only [List.mem_append, not_or]
  exact ⟨⟨⟨statement, by decide⟩, exports⟩, by decide⟩

end Sheet

end Groundwork.Schema
