import Groundwork.Proofs.Schema.EnumExport
import Groundwork.Proofs.Schema.TableSite
import Groundwork.Schema.File

/-!
# Replacing a model in a schema file

A model's definitions stand in a file among other text. Replacing the model finds its table, takes
out the exports of its enums and puts the new definitions where the old ones were; the text before
and after them stays as it is (`replace_in_surroundings`). MySQL is the exception: its tables call
`mysqlEnum`, and the export of an enum that somebody gave this name goes with them.
-/

namespace Groundwork.Schema

open Text

variable {names : ModelNames} {fields : List Field}

/-- A model whose definitions can be told from the text around them. -/
structure ProperModel (names : ModelNames) (fields : List Field) : Prop
    extends InlineModel names fields where
  fit : Field.FitTogether fields

/-- The fields of a model whose enums are exported. -/
def exportedEnums (fields : List Field) : Dialect → List Field
  | .postgresql => fields.filter fun f => f.isEnum && !f.choiceList.isEmpty
  | .sqlite | .mysql => []

theorem enumExports_eq (names : ModelNames) (fields : List Field) (dialect : Dialect) :
    enumExports names fields dialect = (exportedEnums fields dialect).map (enumExport names) := by
  cases dialect <;> rfl

/-- The definitions of a model are the exports of its enums and its table. -/
theorem definitions_eq (names : ModelNames) (fields : List Field) (dialect : Dialect)
    (options : Options) :
    definitions names fields dialect options =
      exportBlocks names (exportedEnums fields dialect) ++
        tableExport names fields dialect options := by
  unfold definitions
  rw [enumExports_eq]
  induction exportedEnums fields dialect with
  | nil => simp [exportBlocks]
  | cons f enums ih =>
    have rest : ∃ next others, enums.map (enumExport names) ++
        [tableExport names fields dialect options] = next :: others := by
      cases enums <;> simp
    obtain ⟨next, others, same⟩ := rest
    rw [same] at ih
    rw [List.map_cons, List.cons_append, same, List.intercalate_cons_cons, ih]
    simp [exportBlocks, exportBlock]

theorem of_mem_exportedEnums {f : Field} {dialect : Dialect}
    (member : f ∈ exportedEnums fields dialect) :
    dialect = .postgresql ∧ f ∈ fields ∧ f.isEnum = true := by
  cases dialect
  · simp [exportedEnums] at member
  · obtain ⟨given, exported⟩ := List.mem_filter.1 member
    exact ⟨rfl, given, (Bool.and_eq_true_iff.1 exported).1⟩
  · simp [exportedEnums] at member

theorem inline_of_mem_exportedEnums (inline : InlineModel names fields) (dialect : Dialect) :
    ∀ f ∈ exportedEnums fields dialect, f.Inline :=
  fun f member => inline.columns f (of_mem_exportedEnums member).2.1

theorem oneLine_of_mem_exportedEnums (oneLine : OneLineModel names fields) (dialect : Dialect) :
    ∀ f ∈ exportedEnums fields dialect, f.OneLine :=
  fun f member => oneLine.columns f (of_mem_exportedEnums member).2.1

/-- A recogniser of exports finds nothing in definitions that it does not take for its own. -/
theorem inert_definitions {recognise : Option Char → Text → Option Text}
    (exports : RecognisesExports recognise) (oneLine : OneLineModel names fields)
    {dialect : Dialect} {options : Options}
    (enums : ∀ f ∈ exportedEnums fields dialect, ∀ before s,
      recognise before (enumExport names f ++ s) = none)
    (table : ∀ before s, recognise before (tableExport names fields dialect options ++ s) = none) :
    Inert recognise (definitions names fields dialect options) := by
  rw [definitions_eq]
  exact (inert_exportBlocks exports oneLine.spellings (oneLine_of_mem_exportedEnums oneLine _)
    enums).append (inert_tableExport exports oneLine table)

/-- The definitions of a model open no block of another table. -/
theorem inert_headerAt?_definitions (oneLine : OneLineModel names fields) (dialect : Dialect)
    (options : Options) {table : Text} (plain : Plain table) (other : names.table ≠ table) :
    Inert (headerAt? table) (definitions names fields dialect options) :=
  inert_definitions (recognisesExports_headerAt? (plain.not_mem rfl)) oneLine
    (fun f member before s => headerAt?_enumExport oneLine.spellings
      (oneLine_of_mem_exportedEnums oneLine _ f member) table before s)
    (headerAt?_tableExport_of_ne oneLine.spellings dialect options plain other)

/-- The definitions of a model export no enums but the model's own. -/
theorem inert_afterEnumExport?_definitions (oneLine : OneLineModel names fields) (dialect : Dialect)
    (options : Options) {name : Text} (letters : name.all isWord = true)
    (others : ∀ f ∈ exportedEnums fields dialect, enumName names f ≠ name) :
    Inert (afterEnumExport? name) (definitions names fields dialect options) :=
  inert_definitions (recognisesExports_afterEnumExport? (not_mem_feed_of_all_isWord letters))
    oneLine (fun f member before s => afterEnumExport?_enumExport_of_ne oneLine.spellings
      (oneLine_of_mem_exportedEnums oneLine _ f member) letters (others f member) before s)
    (afterEnumExport?_tableExport oneLine.spellings dialect options letters)

/-- The definitions of a model add the model's own table to the tables of a text. -/
theorem hasTable_definitions_append (inline : InlineModel names fields) (dialect : Dialect)
    (options : Options) {table : Text} (plain : Plain table) (s : Text) :
    hasTable (definitions names fields dialect options ++ s) table = true ↔
      names.table = table ∨ hasTable s table = true := by
  obtain ⟨called, ended⟩ := calledNames_exportBlocks inline.spellings
    (inline_of_mem_exportedEnums inline dialect)
  rw [definitions_eq, List.append_assoc, hasTable_append_of_not_isTableWord ended,
    hasTable_tableExport_append inline dialect options plain]
  intro name member
  rw [called name member]
  decide

/-- The definitions of a model have no carriage returns. -/
theorem not_mem_return_definitions (oneLine : OneLineModel names fields) (dialect : Dialect)
    (options : Options) : '\r' ∉ definitions names fields dialect options := by
  have enums : '\r' ∉ exportBlocks names (exportedEnums fields dialect) := by
    intro member
    obtain ⟨f, given, inside⟩ := List.mem_flatMap.1 member
    have line := isOneLine_enumExport oneLine.spellings
      (oneLine_of_mem_exportedEnums oneLine _ f given)
    simp [exportBlock, (isOneLine_iff.1 line).2] at inside
  rw [definitions_eq]
  simp [enums, not_mem_return_tableExport oneLine dialect options]

/-! ## Enums of a model -/

/-- Fields with different names have enums with different names. -/
theorem enumName_injective (oneLine : OneLineModel names fields) (fit : Field.FitTogether fields)
    {f g : Field} (first : f ∈ fields) (second : g ∈ fields)
    (same : enumName names f = enumName names g) : f.name = g.name := by
  unfold enumName at same
  have spelled := List.append_cancel_left (List.append_cancel_right same)
  have noFeed (h : Field) (member : h ∈ fields) : '\n' ∉ h.name :=
    (oneLine.columns h member).plain.not_mem rfl
  obtain ⟨c, s, cut, -, small, letters⟩ := letters_of_isIdentifier (noFeed f first)
    (fit.wellFormed f first).identifier
  obtain ⟨d, t, cut', -, small', letters'⟩ := letters_of_isIdentifier (noFeed g second)
    (fit.wellFormed g second).identifier
  rw [cut, cut'] at spelled ⊢
  exact Naming.pascal_injective small small' letters letters' spelled

theorem nodup_enumNames (oneLine : OneLineModel names fields) (fit : Field.FitTogether fields)
    (dialect : Dialect) :
    ((exportedEnums fields dialect).map (enumName names)).Nodup := by
  have sublist : (exportedEnums fields dialect).Sublist fields := by
    cases dialect
    · exact List.nil_sublist _
    · exact List.filter_sublist
    · exact List.nil_sublist _
  have distinct : ((exportedEnums fields dialect).map Field.name).Nodup :=
    (sublist.map Field.name).nodup fit.distinct
  refine List.Nodup.map_on (fun f first g second same => ?_) distinct.of_map
  exact List.inj_on_of_nodup_map distinct first second
    (enumName_injective oneLine fit (sublist.subset first) (sublist.subset second) same)

theorem eraseDups_of_nodup {l : List Text} (distinct : l.Nodup) : l.eraseDups = l := by
  induction l with
  | nil => rfl
  | cons a l ih =>
    obtain ⟨fresh, rest⟩ := List.nodup_cons.1 distinct
    rw [List.eraseDups_cons]
    have kept : l.filter (fun b => !b == a) = l := by
      rw [List.filter_eq_self]
      intro b member
      have other : b ≠ a := fun same => fresh (same ▸ member)
      simp [other]
    rw [kept, ih rest]

/-- In PostgreSQL the enums that a table calls are those exported with it, in some order. -/
theorem enumCalls_postgresql (proper : ProperModel names fields) (options : Options) :
    (enumCalls (tableExport names fields .postgresql options)).Perm
      ((exportedEnums fields .postgresql).map (enumName names)) := by
  have given : exportedEnums fields .postgresql = fields.filter Field.isEnum := by
    refine List.filter_congr fun f member => ?_
    cases isEnum : f.isEnum with
    | false => rfl
    | true =>
      have given := (proper.fit.wellFormed f member).choices isEnum
      simpa using given
  have called : enumCallsAfter [] (tableExport names fields .postgresql options) =
      (exportedEnums fields .postgresql).map (enumName names) := by
    rw [enumCallsAfter_tableExport proper.toInlineModel, given]
    rfl
  unfold enumCalls
  rw [called, eraseDups_of_nodup (nodup_enumNames proper.oneLine proper.fit .postgresql)]
  exact List.mergeSort_perm _ _

theorem enumCalls_sqlite (inline : InlineModel names fields) (options : Options) :
    enumCalls (tableExport names fields .sqlite options) = [] := by
  unfold enumCalls
  rw [enumCallsAfter_tableExport inline]
  exact List.mergeSort_nil

/-- In MySQL all enums are called by the same name. -/
theorem enumCalls_mysql (inline : InlineModel names fields) (options : Options) :
    enumCalls (tableExport names fields .mysql options) =
      if fields.any Field.isEnum then [("mysqlEnum" : Text)] else [] := by
  have once (enums : List Field) : (enums.map fun _ => ("mysqlEnum" : Text)).eraseDups =
      if enums = [] then [] else ["mysqlEnum"] := by
    cases enums with
    | nil => rfl
    | cons f enums => simp [List.eraseDups_cons]
  have given : fields.filter Field.isEnum = [] ↔ ¬ fields.any Field.isEnum = true := by
    simp
  unfold enumCalls
  rw [enumCallsAfter_tableExport inline, columnEnums, once]
  by_cases some : fields.any Field.isEnum = true
  · rw [if_neg fun none => given.1 none some, if_pos some]
    exact List.mergeSort_singleton _
  · rw [if_pos (given.2 some), if_neg some]
    exact List.mergeSort_nil

/-! ## Text around a table -/

/-- The texts before and after a table without the first export of the enum in them. -/
def dropAround (name p s : Text) : Text × Text :=
  match search (afterEnumExport? name) none p with
  | some (front, back) => (front ++ back, s)
  | none => (p, dropEnumExport s name)

theorem search_atLineEnd {recognise : Option Char → Text → Option Text}
    (exports : RecognisesExports recognise) {s : Text} (ends : atLineEnd s = true)
    (before : Option Char) : search recognise before s = search recognise none s := by
  cases s with
  | nil => simp [search, exports.eq_none_nil]
  | cons c s =>
    obtain rfl : c = '\n' := by simpa [atLineEnd] using ends
    simp [search, exports.eq_none]

/-- Dropping the export of an enum drops it before the table or else after it. -/
theorem dropEnumExport_around (oneLine : OneLineModel names fields) (dialect : Dialect)
    (options : Options) {name : Text} (letters : name.all isWord = true) {p s : Text}
    (begins : beginsLine (charBefore none p) = true) (ends : atLineEnd s = true) :
    dropEnumExport (p ++ (tableExport names fields dialect options ++ s)) name =
      (dropAround name p s).1 ++ (tableExport names fields dialect options ++
        (dropAround name p s).2) := by
  have exports := recognisesExports_afterEnumExport? (not_mem_feed_of_all_isWord letters)
  unfold dropAround dropEnumExport
  rcases exports_tableExport names fields dialect options s with empty | ⟨t, same⟩
  · rw [tableExport_append] at empty
    simp at empty
  · cases found : search (afterEnumExport? name) none p with
    | some cut =>
      obtain ⟨front, back⟩ := cut
      rw [same, exports.search_append begins found]
      simp
    | none =>
      have free : Free (afterEnumExport? name) p := fun a b cut _ => by
        rw [List.append_nil]
        exact search_eq_none_iff.1 found a b cut
      have fails := exports.failsWithin begins free (.inr ⟨t, same⟩)
      have inTable : Inert (afterEnumExport? name) (tableExport names fields dialect options) :=
        inert_tableExport exports oneLine fun before u =>
          afterEnumExport?_tableExport oneLine.spellings dialect options letters before u
      rw [search_skip fails, search_skip (inTable (charBefore none p) s),
        search_atLineEnd exports ends]
      cases search (afterEnumExport? name) none s with
      | none => simp
      | some cut => simp

/-- Where neither text has an export of the enum, nothing is dropped. -/
theorem dropAround_of_none {name p s : Text}
    (before : search (afterEnumExport? name) none p = none)
    (after : search (afterEnumExport? name) none s = none) : dropAround name p s = (p, s) := by
  simp [dropAround, dropEnumExport, before, after]

theorem length_dropEmptyLine_le (s : Text) : (dropEmptyLine s).length ≤ s.length := by
  unfold dropEmptyLine
  split
  · next rest blank =>
    have shorter := (List.dropWhile_sublist isSpaceOrTab (l := s)).length_le
    rw [blank] at shorter
    exact Nat.le_trans (Nat.le_succ _) shorter
  · exact Nat.le_refl _

theorem length_of_search_afterEnumExport? {name content front back : Text}
    (found : search (afterEnumExport? name) none content = some (front, back)) :
    (front ++ back).length < content.length := by
  obtain ⟨rest, rfl, here⟩ := recognise_of_search found
  obtain ⟨-, e, tail, rfl, rfl⟩ := afterEnumExport?_eq_some_iff.1 here
  have shorter := length_dropEmptyLine_le tail
  rw [e.text_append]
  simp only [List.length_append, List.length_cons]
  omega

/-- Where one of the texts has an export of the enum, text is lost. -/
theorem length_dropAround {name p s : Text}
    (some : (search (afterEnumExport? name) none p).isSome = true ∨
      (search (afterEnumExport? name) none s).isSome = true) :
    ((dropAround name p s).1 ++ (dropAround name p s).2).length < (p ++ s).length := by
  unfold dropAround
  cases before : search (afterEnumExport? name) none p with
  | some cut =>
    have shorter := length_of_search_afterEnumExport? before
    simp only [List.length_append] at shorter ⊢
    omega
  | none =>
    have inRest := some.resolve_left (by simp [before])
    obtain ⟨⟨front, back⟩, after⟩ := Option.isSome_iff_exists.1 inRest
    have shorter := length_of_search_afterEnumExport? after
    simp only [dropEnumExport, after, List.length_append] at shorter ⊢
    omega

/-! ## Replacing a model -/

/-- A generated table is replaced, and the text around it stays. -/
theorem replaceBlock_tableExport (oneLine : OneLineModel names fields) (dialect : Dialect)
    (options : Options) {p s : Text} (begins : beginsLine (charBefore none p) = true)
    (free : Free (headerAt? names.table) p) (ends : atLineEnd s = true) (block : Text) :
    replaceBlock (p ++ (tableExport names fields dialect options ++ s)) names.table block =
      p ++ (block ++ s) := by
  unfold replaceBlock
  rw [find?_tableExport oneLine dialect options begins free ends]
  simp

/-- The table of a model is found after the exports of its enums. -/
theorem find?_definitions (oneLine : OneLineModel names fields) (dialect : Dialect)
    (options : Options) {p s : Text} (begins : beginsLine (charBefore none p) = true)
    (free : Free (headerAt? names.table) p) (ends : atLineEnd s = true) :
    TableSite.find? (p ++ (definitions names fields dialect options ++ s)) names.table =
      some ⟨p ++ exportBlocks names (exportedEnums fields dialect),
        tableExport names fields dialect options, s⟩ := by
  have exports := recognisesExports_headerAt? (oneLine.spellings.table.not_mem (c := '\n') rfl)
  have follows : Exports (exportBlocks names (exportedEnums fields dialect)) := by
    simpa using exports_exportBlocks names (exportedEnums fields dialect) (s := []) (.inl rfl)
  have enums := oneLine_of_mem_exportedEnums oneLine dialect
  have inertEnums : Inert (headerAt? names.table)
      (exportBlocks names (exportedEnums fields dialect)) :=
    inert_exportBlocks exports oneLine.spellings enums fun f member before u =>
      headerAt?_enumExport oneLine.spellings (enums f member) names.table before u
  have beginsTable : beginsLine
      (charBefore none (p ++ exportBlocks names (exportedEnums fields dialect))) = true := by
    rw [charBefore_append]
    exact beginsLine_exportBlocks begins names _
  rw [definitions_eq, List.append_assoc, ← List.append_assoc p]
  exact find?_tableExport oneLine dialect options beginsTable
    (exports.free_append begins free inertEnums follows) ends

/-- What remains of the texts around a model when the enums of its old table are dropped. -/
def remaining (dialect : Dialect) (fields : List Field) (p s : Text) : Text × Text :=
  if dialect = .mysql ∧ fields.any Field.isEnum = true then dropAround "mysqlEnum" p s else (p, s)

/-- Dropping the enums that a model's table calls leaves the table and what remains around it. -/
theorem foldl_dropEnumExport_definitions (proper : ProperModel names fields) (dialect : Dialect)
    (options : Options) {p s : Text} (begins : beginsLine (charBefore none p) = true)
    (free : ∀ f ∈ exportedEnums fields dialect, Free (afterEnumExport? (enumName names f)) p)
    (ends : atLineEnd s = true) :
    (enumCalls (tableExport names fields dialect options)).foldl dropEnumExport
        (p ++ (definitions names fields dialect options ++ s)) =
      (remaining dialect fields p s).1 ++ (tableExport names fields dialect options ++
        (remaining dialect fields p s).2) := by
  rw [definitions_eq, List.append_assoc]
  cases dialect with
  | sqlite =>
    rw [enumCalls_sqlite proper.toInlineModel]
    simp [remaining, exportedEnums, exportBlocks]
  | postgresql =>
    rw [foldl_dropEnumExport proper.spellings
      (oneLine_of_mem_exportedEnums proper.oneLine _)
      (nodup_enumNames proper.oneLine proper.fit .postgresql)
      (enumCalls_postgresql proper options) begins free]
    simp [remaining]
  | mysql =>
    rw [enumCalls_mysql proper.toInlineModel]
    by_cases called : fields.any Field.isEnum = true
    · have letters : ("mysqlEnum" : Text).all isWord = true := by decide
      have around :=
        dropEnumExport_around proper.oneLine .mysql options letters begins ends
      simp only [remaining, called, and_self, if_true, exportedEnums, exportBlocks,
        List.flatMap_nil, List.nil_append, List.foldl_cons, List.foldl_nil]
      exact around
    · simp [remaining, called, exportedEnums, exportBlocks]

/-- Replacing a model whose definitions stand in a file puts the new definitions in their place,
    as far as the text around them remains. -/
theorem replace_definitions {oldNames : ModelNames} {oldFields : List Field}
    (proper : ProperModel oldNames oldFields) (table : oldNames.table = names.table)
    (dialect : Dialect) (oldOptions options : Options) {p s : Text}
    (begins : beginsLine (charBefore none p) = true) (freeTable : Free (headerAt? names.table) p)
    (freeEnums : ∀ f ∈ exportedEnums oldFields dialect,
      Free (afterEnumExport? (enumName oldNames f)) p)
    (ends : atLineEnd s = true) :
    replace (p ++ (definitions oldNames oldFields dialect oldOptions ++ s)) names fields dialect
        options =
      .ok (mergeImports (replaceBlock ((remaining dialect oldFields p s).1 ++
          (tableExport oldNames oldFields dialect oldOptions ++
            (remaining dialect oldFields p s).2))
        names.table (definitions names fields dialect options))
        (requiredImports fields dialect options) dialect) := by
  rw [← table] at freeTable
  have site :=
    find?_definitions proper.oneLine dialect oldOptions begins freeTable ends
  have dropped := foldl_dropEnumExport_definitions proper dialect oldOptions begins freeEnums ends
  rw [table] at site
  unfold replace locate swap
  rw [site]
  simp only [bind, Except.bind, pure, Except.pure]
  rw [dropped]

/-- Replacing a model changes nothing but its definitions and the imports, if nothing around them is
    lost with the enums of the old table. -/
theorem replace_definitions_of_remaining {oldNames : ModelNames} {oldFields : List Field}
    (fields : List Field) (proper : ProperModel oldNames oldFields)
    (table : oldNames.table = names.table)
    (dialect : Dialect) (oldOptions options : Options) {p s : Text}
    (begins : beginsLine (charBefore none p) = true) (freeTable : Free (headerAt? names.table) p)
    (freeEnums : ∀ f ∈ exportedEnums oldFields dialect,
      Free (afterEnumExport? (enumName oldNames f)) p)
    (ends : atLineEnd s = true) (kept : remaining dialect oldFields p s = (p, s)) :
    replace (p ++ (definitions oldNames oldFields dialect oldOptions ++ s)) names fields dialect
        options =
      .ok (mergeImports (p ++ (definitions names fields dialect options ++ s))
        (requiredImports fields dialect options) dialect) := by
  rw [replace_definitions proper table dialect oldOptions options begins freeTable freeEnums ends,
    kept]
  rw [← table] at freeTable ⊢
  rw [replaceBlock_tableExport proper.oneLine dialect oldOptions begins freeTable ends]

end Groundwork.Schema
