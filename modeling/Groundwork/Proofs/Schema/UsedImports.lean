import Groundwork.Proofs.Schema.Catalogue
import Groundwork.Proofs.Schema.Listing
import Groundwork.Proofs.Schema.Surroundings

/-!
# Imports are what is used

Which builders a model needs from the library is decided apart from the text that calls them. The
text of a model's definitions calls the builders of its exports and columns, and of these it exports
the enums itself (`usedBuilders`). What is left are the required imports (`requiredImports_used`).
-/

namespace Groundwork.Schema

open Text

variable {names : ModelNames} {fields : List Field} {f : Field} {dialect : Dialect}
  {options : Options}

/-- The enums that a text exports. -/
def exportedEnumNames (source : Text) : List Text :=
  ((exportCalls source).filter fun call => isEnumWord call.2).map Prod.fst

/-- The builders that a text calls in its exports and its columns, less the enums that it exports
    itself. -/
def usedBuilders (source : Text) : List Text :=
  ((exportCalls source ++ columnCalls source).map Prod.snd).filter fun builder =>
    !(exportedEnumNames source).contains builder

/-! ## What each field needs -/

/-- The builder of the library that a field needs. -/
def fieldImport (f : Field) (dialect : Dialect) (options : Options) : Text :=
  if f.isEnum then dialect.enumBuilder?.getD "text"
  else if f.isReference then (referenceType dialect options.uuid).builder
  else (ColumnType.ofKind dialect f.kind).builder

/-- The builders that a model needs, one for each part of its definitions. -/
def modelImports (fields : List Field) (dialect : Dialect) (options : Options) : List Text :=
  [dialect.tableBuilder, keyBuilder dialect options.uuid]
    ++ (if options.noTimestamps then [] else [timestampBuilder dialect])
    ++ fields.map fun f => fieldImport f dialect options

/-- For enums the builder of enums is imported, or that of texts if the dialect has no enums. -/
theorem mem_enumImports_iff {symbol : Text} :
    (symbol ∈ (if fields.any Field.isEnum then dialect.enumBuilder?.toList else []) ∨
      symbol ∈ (if fields.any Field.isEnum && dialect = .sqlite then [("text" : Text)] else [])) ↔
      ∃ f ∈ fields, f.isEnum = true ∧ fieldImport f dialect options = symbol := by
  constructor
  · intro needed
    cases enums : fields.any Field.isEnum with
    | false => simp [enums] at needed
    | true =>
      obtain ⟨f, given, isEnum⟩ := List.any_eq_true.1 enums
      refine ⟨f, given, isEnum, ?_⟩
      cases dialect <;> simp_all [fieldImport, Dialect.enumBuilder?]
  · rintro ⟨f, given, isEnum, rfl⟩
    have enums : fields.any Field.isEnum = true := List.any_eq_true.2 ⟨f, given, isEnum⟩
    cases dialect <;> simp [fieldImport, isEnum, enums, Dialect.enumBuilder?]

/-- For a field that is no enum the builder of its column is imported. -/
theorem mem_columnImports_iff {symbol : Text} :
    symbol ∈ (if f.isEnum then []
      else if f.isReference then [(referenceType dialect options.uuid).builder]
      else [(ColumnType.ofKind dialect f.kind).builder]) ↔
      ¬ f.isEnum = true ∧ fieldImport f dialect options = symbol := by
  unfold fieldImport
  cases f.isEnum <;> cases f.isReference <;> simp [eq_comm]

theorem mem_requiredImports_iff {symbol : Text} :
    symbol ∈ requiredImports fields dialect options ↔
      symbol ∈ modelImports fields dialect options := by
  have needed : (∃ f ∈ fields, fieldImport f dialect options = symbol) ↔
      (∃ f ∈ fields, f.isEnum = true ∧ fieldImport f dialect options = symbol) ∨
        ∃ f ∈ fields, ¬ f.isEnum = true ∧ fieldImport f dialect options = symbol := by
    constructor
    · rintro ⟨f, given, same⟩
      by_cases isEnum : f.isEnum = true
      · exact .inl ⟨f, given, isEnum, same⟩
      · exact .inr ⟨f, given, isEnum, same⟩
    · rintro (⟨f, given, -, same⟩ | ⟨f, given, -, same⟩) <;> exact ⟨f, given, same⟩
  unfold requiredImports modelImports
  rw [List.mem_eraseDups]
  simp only [List.mem_append, List.mem_flatMap, List.mem_map, mem_columnImports_iff]
  rw [needed, ← mem_enumImports_iff, or_right_comm]
  simp only [or_assoc]

/-- A column calls the builder that its field needs, unless it calls an enum of the model. -/
theorem columnBuilder_eq (names : ModelNames) (f : Field) (dialect : Dialect) (options : Options) :
    columnBuilder names f dialect options =
      if f.isEnum = true ∧ dialect = .postgresql then enumName names f
      else fieldImport f dialect options := by
  have sized : (ColumnType.sized dialect f.kind).builder =
      (ColumnType.ofKind dialect f.kind).builder := by
    cases dialect <;> cases f.kind <;> rfl
  unfold columnBuilder fieldImport
  cases f.isEnum
  · simp [sized]
  · cases dialect <;> simp [Dialect.enumBuilder?]

/-! ## Enums of the model -/

/-- The name of an enum has a capital before its ending, and no builder of the library has. -/
theorem enumName_ne_of_small {stem : Text} (wellFormed : f.WellFormed) (line : '\n' ∉ f.name)
    (small : ∀ c ∈ stem, c.isUpper = false) : enumName names f ≠ stem ++ "Enum" := by
  obtain ⟨c, s, spelled, -, lower, letters⟩ := letters_of_isIdentifier line wellFormed.identifier
  intro same
  have front : names.camel ++ Naming.pascal f.name = stem := List.append_cancel_right same
  have capital : c.toUpper ∈ stem := by
    rw [← front, spelled, Naming.pascal_cons lower letters]
    simp
  have upper : c.toUpper.isUpper = true := by
    rw [Char.isUpper_toUpper_eq_isAlpha]
    simp [Char.isAlpha, lower]
  rw [small _ capital] at upper
  cases upper

/-- Of the builders that a model needs only those of enums end like an enum's name. -/
theorem exists_stem_of_mem_modelImports {symbol : Text}
    (member : symbol ∈ modelImports fields dialect options) (word : isEnumWord symbol = true) :
    ∃ stem : Text, symbol = stem ++ "Enum" ∧ ∀ c ∈ stem, c.isUpper = false := by
  have table : isEnumWord dialect.tableBuilder = false := by cases dialect <;> rfl
  have key : isEnumWord (keyBuilder dialect options.uuid) = false := by
    cases dialect <;> cases options.uuid <;> rfl
  have stamp : isEnumWord (timestampBuilder dialect) = false := by cases dialect <;> rfl
  have reference := (builder_referenceType dialect options.uuid).1
  have column (kind : FieldKind) : isEnumWord (ColumnType.ofKind dialect kind).builder = false := by
    cases dialect <;> cases kind <;> rfl
  unfold modelImports at member
  simp only [List.mem_append, List.mem_cons, List.not_mem_nil, or_false, List.mem_map] at member
  rcases member with ((rfl | rfl) | stamps) | ⟨f, -, rfl⟩
  · rw [table] at word
    cases word
  · rw [key] at word
    cases word
  · split at stamps
    · cases stamps
    · rw [List.mem_singleton.1 stamps, stamp] at word
      cases word
  · unfold fieldImport at word ⊢
    split at word
    · next isEnum =>
      rw [if_pos isEnum]
      cases dialect
      · exact absurd word (by decide)
      · exact ⟨"pg", rfl, by simp [Char.isUpper]⟩
      · exact ⟨"mysql", rfl, by simp [Char.isUpper]⟩
    · split at word
      · rw [reference] at word
        cases word
      · rw [column] at word
        cases word

/-- No builder that a model needs has the name of one of its enums. -/
theorem enumName_not_mem_modelImports (wellFormed : f.WellFormed) (oneLine : f.OneLine) :
    enumName names f ∉ modelImports fields dialect options := by
  intro member
  obtain ⟨stem, same, small⟩ :=
    exists_stem_of_mem_modelImports member (isEnumWord_enumName oneLine)
  exact enumName_ne_of_small wellFormed (oneLine.plain.not_mem rfl) small same

theorem AcceptedModel.legible (accepted : AcceptedModel names fields) :
    ∀ f ∈ fields, f.Legible := by
  obtain ⟨tokens, noTimestamps, read⟩ := accepted.read
  intro f member
  obtain ⟨token, -, readToken⟩ := (Field.ofTokensAfter_spec read).1 f member
  refine Field.legible_of_ofToken readToken ?_ fun value given => ?_
  · exact (isOneLine_iff.1 (accepted.oneLine f member f.name (by simp [Field.texts]))).1
  · exact (isOneLine_iff.1 (accepted.oneLine f member value (by simp [Field.texts, given]))).1

/-- Definitions export the enums of the model. -/
theorem exportedEnumNames_definitions (accepted : AcceptedModel names fields) (dialect : Dialect)
    (options : Options) :
    exportedEnumNames (definitions names fields dialect options) =
      (exportedEnums fields dialect).map (enumName names) := by
  have table : isEnumWord dialect.tableBuilder = false := by cases dialect <;> rfl
  have enums : ((exportedEnums fields dialect).map fun f =>
      (enumName names f, ("pgEnum" : Text))).filter (fun call => isEnumWord call.2) =
      (exportedEnums fields dialect).map fun f => (enumName names f, ("pgEnum" : Text)) := by
    refine List.filter_eq_self.2 fun call member => ?_
    obtain ⟨f, -, rfl⟩ := List.mem_map.1 member
    rfl
  unfold exportedEnumNames
  rw [exportCalls_definitions accepted.oneLineModel accepted.legible, List.filter_append, enums]
  simp [table]

/-- A builder is called in definitions if a part of the model needs it or it is one of the enums
    that they export. -/
theorem mem_calls_definitions_iff (accepted : AcceptedModel names fields) {symbol : Text} :
    symbol ∈ (exportCalls (definitions names fields dialect options) ++
        columnCalls (definitions names fields dialect options)).map Prod.snd ↔
      symbol ∈ modelImports fields dialect options ∨
        symbol ∈ (exportedEnums fields dialect).map (enumName names) := by
  have exported (f : Field) (member : f ∈ fields) (isEnum : f.isEnum = true)
      (postgresql : dialect = .postgresql) : f ∈ exportedEnums fields dialect := by
    have choices := (accepted.fitTogether.wellFormed f member).choices isEnum
    subst postgresql
    simp [exportedEnums, member, isEnum, choices]
  have stamps : symbol ∈ (if options.noTimestamps then [] else
      timestampNames.map fun name => (name, timestampBuilder dialect)).map Prod.snd ↔
      symbol ∈ (if options.noTimestamps then [] else [timestampBuilder dialect]) := by
    cases options.noTimestamps <;> simp [timestampNames]
  rw [exportCalls_definitions accepted.oneLineModel accepted.legible,
    columnCalls_definitions accepted.oneLineModel.spellings accepted.legible]
  unfold modelImports
  simp only [List.map_append, List.map_map, List.mem_append, List.mem_map, List.map_cons,
    List.map_nil, stamps, Function.comp_apply, List.mem_cons, List.not_mem_nil,
    or_false]
  constructor
  · rintro ((⟨f, enum, rfl⟩ | rfl) | (rfl | ⟨f, given, rfl⟩) | stamp)
    · obtain ⟨rfl, given, isEnum⟩ := of_mem_exportedEnums enum
      exact .inl (.inr ⟨f, given, by simp [fieldImport, isEnum, Dialect.enumBuilder?]⟩)
    · exact .inl (.inl (.inl (.inl rfl)))
    · exact .inl (.inl (.inl (.inr rfl)))
    · rw [columnBuilder_eq]
      split
      · next enum => exact .inr ⟨f, exported f given enum.1 enum.2, rfl⟩
      · exact .inl (.inr ⟨f, given, rfl⟩)
    · exact .inl (.inl (.inr stamp))
  · rintro ((((rfl | rfl) | stamp) | ⟨f, given, rfl⟩) | ⟨f, enum, rfl⟩)
    · exact .inl (.inr rfl)
    · exact .inr (.inl (.inl rfl))
    · exact .inr (.inr stamp)
    · by_cases enum : f.isEnum = true ∧ dialect = .postgresql
      · refine .inl (.inl ⟨f, exported f given enum.1 enum.2, ?_⟩)
        simp [fieldImport, enum.1, enum.2, Dialect.enumBuilder?]
      · refine .inr (.inl (.inr ⟨f, given, ?_⟩))
        rw [columnBuilder_eq, if_neg enum]
    · obtain ⟨postgresql, given, isEnum⟩ := of_mem_exportedEnums enum
      refine .inr (.inl (.inr ⟨f, given, ?_⟩))
      rw [columnBuilder_eq, if_pos ⟨isEnum, postgresql⟩]

/-- The required imports are the builders that the definitions of an accepted model use, each
    once. -/
theorem requiredImports_used (accepted : AcceptedModel names fields) (dialect : Dialect)
    (options : Options) :
    (requiredImports fields dialect options).Nodup ∧
      ∀ symbol, symbol ∈ usedBuilders (definitions names fields dialect options) ↔
        symbol ∈ requiredImports fields dialect options := by
  refine ⟨Catalogue.nodup_eraseDups _, fun symbol => ?_⟩
  unfold usedBuilders
  rw [List.mem_filter, mem_calls_definitions_iff accepted, exportedEnumNames_definitions accepted,
    mem_requiredImports_iff]
  simp only [Bool.not_eq_true', List.contains_eq_mem, decide_eq_false_iff_not]
  constructor
  · rintro ⟨needed | enum, foreign⟩
    · exact needed
    · exact absurd enum foreign
  · refine fun needed => ⟨.inl needed, fun enum => ?_⟩
    obtain ⟨f, exported, rfl⟩ := List.mem_map.1 enum
    have given := (of_mem_exportedEnums exported).2.1
    exact enumName_not_mem_modelImports (accepted.fitTogether.wellFormed f given)
      (accepted.oneLineModel.columns f given) needed

/-- Tokens of a model with a plain field, an enum with marks of source text, and a reference. -/
def articleTokens : List Text :=
  ["views:integer?", "status:enum:in (review),done", "author:references:user:unique"]

/-- The fields that the tokens are read as. -/
def articleFields : List Field :=
  [{ name := "views", kind := .integer, nullable := true },
   { name := "status", kind := .enum, isEnum := true, choices := some ["in (review)", "done"] },
   { name := "author", kind := .references, unique := true, isReference := true,
     target := some "user" }]

theorem acceptedModel_article : AcceptedModel (.ofName "article") articleFields where
  named := ⟨"article", rfl, by decide, by decide +kernel⟩
  read := ⟨articleTokens, false, by decide +kernel⟩
  oneLine := by decide +kernel

theorem article_uses :
    requiredImports articleFields .postgresql {} =
        (["pgTable", "serial", "timestamp", "pgEnum", "integer"] : List Text) ∧
      ∀ symbol,
        symbol ∈ usedBuilders (definitions (.ofName "article") articleFields .postgresql {}) ↔
          symbol ∈ requiredImports articleFields .postgresql {} :=
  ⟨by decide +kernel, (requiredImports_used acceptedModel_article .postgresql {}).2⟩

end Groundwork.Schema
