import Groundwork.Proofs.Schema.Sheet

/-!
# The names that a generated file exports

A generated file declares one model for each table, and its enums are accounted for by these models:
it has no more exports of a name than its models have enums of that name (`Sheet.Tidy`). Whatever
else a replaced table calls, the exports of its own enums go with it, so every way to write the file
keeps the account. Where the models name their enums apart, the file exports no name twice
(`Sheet.Tidy.exportsApart`).
-/

namespace Groundwork.Schema

open Text

variable {names : ModelNames} {fields : List Field} {m : Model} {dialect : Dialect}

/-! ## Enums of a table -/

/-- The enums that are exported with a table are called by it. -/
theorem enumName_mem_enumCalls (oneLine : OneLineModel names fields) {f : Field}
    (exported : f ∈ exportedEnums fields dialect) (options : Options) :
    enumName names f ∈ enumCalls (tableExport names fields dialect options) := by
  obtain ⟨rfl, given, isEnum⟩ := of_mem_exportedEnums exported
  have column := oneLine.columns f given
  have letters := all_isWord_of_plain (plain_enumName oneLine.spellings column.plain)
  have line : columnLine names f .postgresql options ∈
      tableLines names fields .postgresql options :=
    mem_tableLines_iff.2 (.inr (.inl ⟨f, given, rfl⟩))
  obtain ⟨earlier, later, cut⟩ := List.append_of_mem line
  have builder : columnBuilder names f .postgresql options = enumName names f := by
    simp [columnBuilder, isEnum]
  obtain ⟨a, rest, text⟩ : ∃ a rest, tableExport names fields .postgresql options =
      a ++ ' ' :: (enumName names f ++ '(' :: rest) := by
    rw [tableExport_eq, tableBody, cut, Text.intercalate_cut, columnLine_eq, builder]
    refine ⟨tableHeader names .postgresql ++ (Text.code ", ⟦\n" ++
      (earlier.flatMap (· ++ ['\n']) ++ ' ' :: ' ' :: (f.name ++ [':']))),
      columnArguments f .postgresql options ++ ')' :: (columnTail f ++
        (later.flatMap ('\n' :: ·) ++ '\n' :: tableEnd)), ?_⟩
    simp
  have called := mem_callsAfter_word (by decide : isWord ' ' = false) letters a rest
  rw [← text] at called
  unfold enumCalls
  rw [List.mem_mergeSort, List.mem_eraseDups, enumCallsAfter_eq, List.mem_filter]
  exact ⟨List.mem_map_of_mem called, isEnumWord_enumName column⟩

/-- A table calls each enum of its model as often as the model exports it, or more often. -/
theorem AcceptedModel.enumNames_le (accepted : AcceptedModel m.names m.fields) (dialect : Dialect) :
    (m.enumNames dialect : Multiset Text) ≤
      enumCalls (tableExport m.names m.fields dialect m.options) := by
  have oneLine := accepted.oneLineModel
  have distinct := nodup_enumNames oneLine accepted.fitTogether dialect
  refine (Multiset.le_iff_subset (Multiset.coe_nodup.2 distinct)).2 fun name member => ?_
  obtain ⟨f, exported, rfl⟩ := List.mem_map.1 (Multiset.mem_coe.1 member)
  exact Multiset.mem_coe.2 (enumName_mem_enumCalls oneLine exported m.options)

namespace Sheet

variable {sheet : Sheet}

/-- A file that declares one model for each table, and no enums but those of its models. -/
structure Tidy (sheet : Sheet) (dialect : Dialect) : Prop extends sheet.Sound where
  accepted : ∀ m ∈ sheet.models, AcceptedModel m.names m.fields
  distinct : (sheet.models.map Model.table).Nodup
  enums : (sheet.enumNames : Multiset Text) ≤ sheet.models.flatMap fun m => m.enumNames dialect

theorem models_around (symbols : List Text) (earlier later : List Export) (m : Model)
    (dialect : Dialect) :
    (⟨symbols, earlier ++ (m.exports dialect ++ later)⟩ : Sheet).models =
      earlier.filterMap Export.model? ++ m :: later.filterMap Export.model? := by
  unfold models
  rw [List.filterMap_append, List.filterMap_append, m.filterMap_model?_exports]
  rfl

theorem enumNames_around (symbols : List Text) (earlier later : List Export) (m : Model)
    (dialect : Dialect) :
    ((⟨symbols, earlier ++ (m.exports dialect ++ later)⟩ : Sheet).enumNames : Multiset Text) =
      (earlier ++ later).filterMap Export.enumName? + m.enumNames dialect := by
  unfold enumNames
  rw [List.filterMap_append, List.filterMap_append, List.filterMap_append,
    m.filterMap_enumName?_exports, ← Multiset.coe_add, ← Multiset.coe_add, ← Multiset.coe_add]
  abel

/-- A sheet with the exports of a model among others is sound. -/
theorem Sound.around (sound : sheet.Sound) (oneLine : OneLineModel m.names m.fields)
    (dialect : Dialect) {earlier later : List Export} (inside : earlier ++ later ⊆ sheet.exports)
    (last : later = [] ∨ later.getLast? = sheet.exports.getLast?) :
    (⟨(sheet.symbols ++ m.imports dialect).eraseDups,
      earlier ++ (m.exports dialect ++ later)⟩ : Sheet).Sound where
  symbols := by
    intro symbol member
    rcases List.mem_append.1 (List.mem_eraseDups.1 member) with old | new
    · exact sound.symbols symbol old
    · exact Catalogue.symbols_requiredImports m.fields dialect m.options symbol new
  imports := by
    obtain ⟨symbol, symbols, given⟩ := List.exists_cons_of_ne_nil sound.imports
    refine List.ne_nil_of_mem (a := symbol) (List.mem_eraseDups.2 ?_)
    simp [given]
  oneLine := by
    intro e member
    rcases List.mem_append.1 member with before | rest
    · exact sound.oneLine e (inside (List.mem_append_left _ before))
    · rcases List.mem_append.1 rest with own | after
      · exact m.oneLine_exports oneLine dialect e own
      · exact sound.oneLine e (inside (List.mem_append_right _ after))
  ends := by
    rcases last with rfl | same
    · exact ⟨m, by simp [Model.exports]⟩
    · obtain ⟨l, last⟩ := sound.ends
      refine ⟨l, ?_⟩
      rw [List.getLast?_append, List.getLast?_append, same, last]
      rfl

/-- A sheet that declares one model more, or another one in its place, stays tidy if its enums are
    accounted for. -/
theorem Tidy.put (tidy : sheet.Tidy dialect) (accepted : AcceptedModel m.names m.fields)
    {after : Sheet} (sound : after.Sound) (models : after.models = putModel m sheet.models)
    (enums : (after.enumNames : Multiset Text) ≤
      (putModel m sheet.models).flatMap fun m => m.enumNames dialect) : after.Tidy dialect where
  toSound := sound
  accepted := by
    intro other member
    rw [models] at member
    rcases mem_putModel member with rfl | old
    · exact accepted
    · exact tidy.accepted other old
  distinct := by
    rw [models]
    exact nodup_putModel tidy.distinct m
  enums := by
    rw [models]
    exact enums

/-- A file that is created with one model is tidy. -/
theorem tidy_create (accepted : AcceptedModel m.names m.fields) (dialect : Dialect) :
    (⟨m.imports dialect, m.exports dialect⟩ : Sheet).Tidy dialect ∧
      (⟨m.imports dialect, m.exports dialect⟩ : Sheet).models = [m] := by
  have models : (⟨m.imports dialect, m.exports dialect⟩ : Sheet).models = [m] :=
    m.filterMap_model?_exports dialect
  refine ⟨?_, models⟩
  exact {
    symbols := Catalogue.symbols_requiredImports m.fields dialect m.options
    imports := by
      refine List.ne_nil_of_mem (a := dialect.tableBuilder) ?_
      simp [Model.imports, requiredImports, List.mem_eraseDups]
    oneLine := m.oneLine_exports accepted.oneLineModel dialect
    ends := ⟨m, by simp [Model.exports]⟩
    accepted := by simpa [models] using accepted
    distinct := by simp [models]
    enums := by
      rw [models, List.flatMap_singleton, enumNames, m.filterMap_enumName?_exports] }

/-- Appending a model with a new table keeps the file tidy. -/
theorem Tidy.append (tidy : sheet.Tidy dialect) (accepted : AcceptedModel m.names m.fields)
    (absent : ∀ old ∈ sheet.models, old.table ≠ m.table) :
    let after : Sheet := ⟨(sheet.symbols ++ m.imports dialect).eraseDups,
      sheet.exports ++ m.exports dialect⟩
    after.Tidy dialect ∧ after.models = putModel m sheet.models := by
  intro after
  have shape : after = ⟨(sheet.symbols ++ m.imports dialect).eraseDups,
      sheet.exports ++ (m.exports dialect ++ [])⟩ := by simp [after]
  have models : after.models = putModel m sheet.models := by
    rw [shape, models_around, putModel_absent absent]
    rfl
  refine ⟨tidy.put accepted ?_ models ?_, models⟩
  · rw [shape]
    exact tidy.toSound.around accepted.oneLineModel dialect (by simp) (.inl rfl)
  · rw [shape, enumNames_around, putModel_absent absent, List.flatMap_append,
      List.flatMap_singleton, List.append_nil, ← Multiset.coe_add]
    exact add_le_add_left tidy.enums _

/-- The exports of a model in place of a table declare the model in place of the old one. -/
theorem models_put {earlier later : List Export} {old : Model}
    (cut : sheet.exports = earlier ++ .table old :: later) (same : old.table = m.table)
    (absent : ∀ e ∈ earlier, e.table? ≠ some m.table) (symbols : List Text) :
    (⟨symbols, earlier ++ (m.exports dialect ++ later)⟩ : Sheet).models =
      putModel m sheet.models := by
  have declared : sheet.models =
      earlier.filterMap Export.model? ++ old :: later.filterMap Export.model? := by
    unfold models
    rw [cut, List.filterMap_append]
    rfl
  rw [models_around, declared]
  refine (putModel_present (fun other member => ?_) same).symm
  obtain ⟨e, listed, given⟩ := List.mem_filterMap.1 member
  exact fun table => absent e listed (by simp [Export.table?, given, table])

theorem Sound.put (sound : sheet.Sound) (oneLine : OneLineModel m.names m.fields)
    {earlier later : List Export} {old : Model}
    (cut : sheet.exports = earlier ++ .table old :: later) (dialect : Dialect) :
    (⟨(sheet.symbols ++ m.imports dialect).eraseDups,
      earlier ++ (m.exports dialect ++ later)⟩ : Sheet).Sound := by
  refine sound.around oneLine dialect (by rw [cut]; simp) ?_
  rw [cut, List.getLast?_append]
  cases later with
  | nil => exact .inl rfl
  | cons e later =>
    rw [List.getLast?_cons_cons, List.getLast?_cons]
    exact .inr rfl

/-- Names that are accounted for stay so when a model is replaced, if at least the names of the old
    model go. -/
theorem account_replace {models : List Model} {enums called : Multiset Text} {old : Model}
    (account : enums ≤ models.flatMap fun m => m.enumNames dialect)
    (found : models.find? (·.table = m.table) = some old)
    (own : (old.enumNames dialect : Multiset Text) ≤ called) :
    enums - called + m.enumNames dialect ≤
      (putModel m models).flatMap fun m => m.enumNames dialect := by
  obtain ⟨same, before, after, rfl, absent⟩ := List.find?_eq_some_iff_append.1 found
  have put : putModel m (before ++ old :: after) = before ++ m :: after :=
    putModel_present (by simpa using absent) (by simpa using same)
  have others (middle : Model) :
      (((before ++ middle :: after).flatMap fun m => m.enumNames dialect : List Text) :
        Multiset Text) =
      (before ++ after).flatMap (fun m => m.enumNames dialect) + middle.enumNames dialect := by
    rw [List.flatMap_append, List.flatMap_append, List.flatMap_cons, ← Multiset.coe_add,
      ← Multiset.coe_add, ← Multiset.coe_add]
    abel
  rw [others] at account
  rw [put, others]
  gcongr
  rw [tsub_le_iff_right]
  calc enums ≤ _ := account
    _ ≤ _ := by gcongr

/-- Replacing a model keeps the file tidy: the exports that go are at least those of the enums that
    the old model accounts for. -/
theorem Tidy.replace (tidy : sheet.Tidy dialect) (accepted : AcceptedModel m.names m.fields)
    {old : Model} {earlier later : List Export}
    (found : sheet.models.find? (·.table = m.table) = some old)
    (cut : (sheet.dropAll (enumCalls (tableExport old.names old.fields dialect
      old.options))).exports = earlier ++ .table old :: later)
    (absent : ∀ e ∈ earlier, e.table? ≠ some m.table) :
    let after : Sheet := ⟨(sheet.symbols ++ m.imports dialect).eraseDups,
      earlier ++ (m.exports dialect ++ later)⟩
    after.Tidy dialect ∧ after.models = putModel m sheet.models := by
  intro after
  have same : old.table = m.table := by simpa using List.find?_some found
  have own := (tidy.accepted old (List.mem_of_find?_eq_some found)).enumNames_le dialect
  have sound : (sheet.dropAll (enumCalls (tableExport old.names old.fields dialect
      old.options))).Sound :=
    (dropAll_text tidy.toSound (fun _ => all_isWord_of_mem_enumCalls) dialect).1
  have models : after.models = putModel m sheet.models := by
    rw [models_put cut same absent, models_dropAll]
  refine ⟨tidy.put accepted ?_ models ?_, models⟩
  · have put := sound.put accepted.oneLineModel cut dialect
    rwa [symbols_dropAll] at put
  · have left := sheet.enumNames_dropAll
      (enumCalls (tableExport old.names old.fields dialect old.options))
    rw [enumNames, cut, List.filterMap_append] at left
    rw [enumNames_around, List.filterMap_append]
    exact (congrArg (· + _) left).trans_le (account_replace tidy.enums found own)

/-- A model whose table the text does not have can be appended. -/
theorem Tidy.exists_append (tidy : sheet.Tidy dialect) (accepted : AcceptedModel m.names m.fields)
    (absent : hasTable (sheet.text dialect) m.table = false) :
    ∃ after : Sheet, after.Tidy dialect ∧ after.models = putModel m sheet.models ∧
      after.text dialect =
        Schema.append (sheet.text dialect) m.names m.fields dialect m.options := by
  have fresh : ∀ old ∈ sheet.models, old.table ≠ m.table := by
    intro old member same
    rw [← same, hasTable_text tidy.toSound member] at absent
    cases absent
  obtain ⟨after, models⟩ := tidy.append accepted fresh
  exact ⟨_, after, models, (append_text tidy.toSound m dialect).symm⟩

/-- A model that is replaced in the text is replaced in the sheet. -/
theorem Tidy.exists_replace (tidy : sheet.Tidy dialect) (accepted : AcceptedModel m.names m.fields)
    {result : Text}
    (replaced : Schema.replace (sheet.text dialect) m.names m.fields dialect m.options =
      .ok result) :
    ∃ after : Sheet, after.Tidy dialect ∧ after.models = putModel m sheet.models ∧
      result = after.text dialect := by
  have plain := accepted.oneLineModel.spellings.table
  obtain ⟨old, earlier, later, found, cut, absent, text⟩ := replace_text tidy.toSound plain replaced
  obtain ⟨after, models⟩ := tidy.replace accepted found cut absent
  exact ⟨_, after, models, text⟩

/-! ## Names -/

/-- Models that are exported under one name have one table, if the singular of neither ends in a
    capital vowel with a `y` after it. -/
theorem table_eq_of_camelPlural_eq {first second : Model}
    (accepted : AcceptedModel first.names first.fields)
    (acceptedOther : AcceptedModel second.names second.fields)
    (steady : Naming.endsInCapitalVowelY first.names.singular = false)
    (steadyOther : Naming.endsInCapitalVowelY second.names.singular = false)
    (same : first.names.camelPlural = second.names.camelPlural) : first.table = second.table := by
  obtain ⟨name, spelled, line, valid⟩ := accepted.named
  obtain ⟨other, spelledOther, lineOther, validOther⟩ := acceptedOther.named
  unfold Model.table
  rw [spelled] at steady same ⊢
  rw [spelledOther] at steadyOther same ⊢
  exact Naming.pluralise_snake_eq (ModelNames.alphanumeric_singular line valid)
    (ModelNames.alphanumeric_singular lineOther validOther) steady steadyOther same

/-- The names of a row of exports are those of its tables and of its enums. -/
theorem names_perm (exports : List Export) :
    (exports.map Export.name).Perm ((exports.filterMap Export.model?).map (·.names.camelPlural) ++
      exports.filterMap Export.enumName?) := by
  induction exports with
  | nil => exact .nil
  | cons e exports ih =>
    cases e with
    | enum names f => exact (ih.cons _).trans List.perm_middle.symm
    | table m => exact ih.cons _

theorem Tidy.nodup_camelPlurals (tidy : sheet.Tidy dialect)
    (steady : ∀ m ∈ sheet.models, Naming.endsInCapitalVowelY m.names.singular = false) :
    (sheet.models.map (·.names.camelPlural)).Nodup := by
  refine List.Nodup.map_on (fun first member second other same => ?_) tidy.distinct.of_map
  exact List.inj_on_of_nodup_map tidy.distinct member other
    (table_eq_of_camelPlural_eq (tidy.accepted first member) (tidy.accepted second other)
      (steady first member) (steady second other) same)

theorem Tidy.nodup_enumNames (tidy : sheet.Tidy dialect)
    (apart : ∀ m ∈ sheet.models, ∀ other ∈ sheet.models, m.table ≠ other.table →
      ∀ f ∈ exportedEnums m.fields dialect, ∀ g ∈ exportedEnums other.fields dialect,
        enumName m.names f ≠ enumName other.names g) : sheet.enumNames.Nodup := by
  have tables : sheet.models.Pairwise fun m other => m.table ≠ other.table :=
    List.pairwise_map.1 tidy.distinct
  have all : (sheet.models.flatMap fun m => m.enumNames dialect).Nodup := by
    refine List.nodup_flatMap.2 ⟨fun m member => ?_, ?_⟩
    · have accepted := tidy.accepted m member
      exact Schema.nodup_enumNames accepted.oneLineModel accepted.fitTogether dialect
    · refine tables.imp_of_mem fun {m other} member inside different name own others => ?_
      obtain ⟨f, given, rfl⟩ := List.mem_map.1 own
      obtain ⟨g, listed, same⟩ := List.mem_map.1 others
      exact apart m member other inside different f given g listed same.symm
  exact Multiset.coe_nodup.1 (Multiset.nodup_of_le tidy.enums (Multiset.coe_nodup.2 all))

/-- A tidy file exports no name twice, if its models name their enums apart. -/
theorem Tidy.exportsApart (tidy : sheet.Tidy dialect) {catalogue : Catalogue}
    (declared : catalogue.models = sheet.models) (apart : catalogue.EnumsApart dialect)
    (steady : ∀ m ∈ catalogue.models, Naming.endsInCapitalVowelY m.names.singular = false) :
    ExportsApart (sheet.text dialect) := by
  unfold Catalogue.EnumsApart at apart
  rw [declared] at apart steady
  unfold ExportsApart
  rw [exportNames_text tidy.toSound, (names_perm sheet.exports).nodup_iff, List.nodup_append]
  refine ⟨tidy.nodup_camelPlurals steady, tidy.nodup_enumNames apart, ?_⟩
  rintro plural listed enum exported rfl
  obtain ⟨m, member, named⟩ := List.mem_map.1 listed
  obtain ⟨e, -, enumNamed⟩ := List.mem_filterMap.1 exported
  cases e with
  | table other => cases enumNamed
  | enum names f =>
    exact (tidy.accepted m member).camelPlural_ne_enumName names f
      (named.trans (Option.some.inj enumNamed).symm)

end Sheet

end Groundwork.Schema
