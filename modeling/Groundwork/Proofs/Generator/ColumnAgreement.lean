import Groundwork.Proofs.Page.Forms
import Groundwork.Proofs.Route.Columns
import Groundwork.Proofs.Schema.UsedImports

/-!
# Agreement on columns

The definitions of a model, the pages with its forms and its server actions are written apart, each
from the fields and the options. They agree on the columns of the table (`columns_agree`).
-/

namespace Groundwork.Generator

open Text Schema

variable {names : ModelNames} {fields : List Field}

/-- The properties that the tables of a text declare. -/
def columnNames (source : Text) : List Text := (columnCalls source).map Prod.fst

/-- The definitions, the pages and the actions of a model agree on its columns. -/
structure ColumnsAgree (names : ModelNames) (fields : List Field) (s : Route.Surroundings) :
    Prop where
  /-- The table has the primary key, the fields in order, and the timestamps unless they are left
      out. -/
  table : columnNames (definitions names fields s.dialect s.options) =
    primaryKey :: fields.map Field.name ++ if s.options.noTimestamps then [] else timestampNames
  /-- The page for a new record passes the fields to the action that creates one. -/
  creation : Page.HasForm ("    await create" ++ names.pascal ++ "(")
    (Page.new names fields s.options) (fields.map Field.name)
  /-- The page that edits a record passes the fields to the action that updates it. -/
  change : Page.HasForm ("    await update" ++ names.pascal ++ "(")
    (Page.edit names fields s.options) (fields.map Field.name)
  /-- Both actions do without the columns of the table that are not fields. -/
  generated : ∀ lead ∈ [Route.createLead names, Route.updateLead names],
    Route.listedColumns lead (Route.actions s names) =
      [(columnNames (definitions names fields s.dialect s.options)).filter
        (· ∉ fields.map Field.name)]
  /-- Rows are sorted by a column of the table. -/
  order : ∃ column ∈ columnNames (definitions names fields s.dialect s.options),
    Route.orderings (Route.actions s names) = [(names.camelPlural, column)]
  /-- An update sets the time of the last change, if the table has it, and no other column. -/
  update : Route.assignments (Route.actions s names) = [Route.updatedNames s.options] ∧
    Route.updatedNames s.options ⊆ columnNames (definitions names fields s.dialect s.options)

/-- A field that was read from a token can stand in a form. -/
theorem presentable_of_ofToken {token : Text} {f : Field} (read : Field.ofToken token = .ok f)
    (line : '\n' ∉ f.name) (choices : ∀ value ∈ f.choiceList, '\n' ∉ value ∧ '"' ∉ value) :
    Form.Presentable f :=
  have legible := Field.legible_of_ofToken read line fun value given => (choices value given).1
  { plain := legible.plain, nonempty := legible.nonempty, choices := choices }

/-- The columns of a table that are not fields are the generated ones. -/
theorem filter_generatedNames {tokens : List Text} {options : Options}
    (read : Field.ofTokens tokens options.noTimestamps = .ok fields) :
    (primaryKey :: fields.map Field.name ++
      if options.noTimestamps then [] else timestampNames).filter (· ∉ fields.map Field.name) =
        Route.generatedNames options := by
  have key : primaryKey ∉ fields.map Field.name := by
    intro taken
    obtain ⟨f, given, same⟩ := List.mem_map.1 taken
    obtain ⟨token, -, readToken⟩ := (Field.ofTokensAfter_spec read).1 f given
    exact Field.ne_primaryKey_of_ofToken readToken same
  have own : (fields.map Field.name).filter (· ∉ fields.map Field.name) = [] := by
    rw [List.filter_eq_nil_iff]
    intro name given
    simpa using given
  have stamps : (if options.noTimestamps then [] else timestampNames).filter
      (· ∉ fields.map Field.name) = if options.noTimestamps then [] else timestampNames := by
    rw [List.filter_eq_self]
    intro name stamp
    cases stamped : options.noTimestamps with
    | true => simp [stamped] at stamp
    | false =>
      rw [stamped, if_neg Bool.false_ne_true] at stamp
      rw [decide_eq_true_eq]
      intro taken
      obtain ⟨f, given, rfl⟩ := List.mem_map.1 taken
      exact Field.not_mem_timestampNames read stamped f given stamp
  rw [List.cons_append, List.filter_cons_of_pos (by simpa using key), List.filter_append, own,
    stamps]
  rfl

/-- Definitions, pages and actions of an accepted model agree on its columns. -/
theorem columns_agree {name : Text} {tokens : List Text} {s : Route.Surroundings}
    (line : '\n' ∉ name) (valid : checkModelName name = .ok ())
    (read : Field.ofTokens tokens s.options.noTimestamps = .ok fields)
    (fieldLines : ∀ f ∈ fields, '\n' ∉ f.name)
    (choices : ∀ f ∈ fields, ∀ value ∈ f.choiceList, '\n' ∉ value ∧ '"' ∉ value) :
    ColumnsAgree (.ofName name) fields s := by
  have spelled := plain_of_checkModelName line valid
  have plain := ModelNames.plain_ofName spelled
  have titled := ModelNames.titled_ofName spelled
  have tokensOf := (Field.ofTokensAfter_spec read).1
  have legible : ∀ f ∈ fields, f.Legible := fun f given => by
    obtain ⟨token, -, readToken⟩ := tokensOf f given
    exact Field.legible_of_ofToken readToken (fieldLines f given)
      fun value listed => (choices f given value listed).1
  have presentable : ∀ f ∈ fields, Form.Presentable f := fun f given => by
    obtain ⟨token, -, readToken⟩ := tokensOf f given
    exact presentable_of_ofToken readToken (fieldLines f given) (choices f given)
  have table : columnNames (definitions (.ofName name) fields s.dialect s.options) =
      primaryKey :: fields.map Field.name ++
        if s.options.noTimestamps then [] else timestampNames := by
    unfold columnNames
    rw [columnCalls_definitions plain legible]
    cases s.options.noTimestamps <;> simp [Function.comp_def]
  refine ⟨table, Page.hasForm_new titled presentable s.options,
    Page.hasForm_edit titled presentable s.options, ?_, ⟨s.orderColumn, ?_,
      Route.orderings_actions plain titled s⟩, Route.assignments_actions plain titled s, ?_⟩
  · rw [table, filter_generatedNames read, List.forall_mem_cons, List.forall_mem_singleton]
    exact ⟨Route.listedColumns_createLead plain titled s,
      Route.listedColumns_updateLead plain titled s⟩
  · rw [table]
    unfold Route.Surroundings.orderColumn
    cases s.options.noTimestamps
    · exact List.mem_append_right _ (by decide)
    · exact List.mem_append_left _ (List.mem_cons_self)
  · rw [table]
    unfold Route.updatedNames
    cases s.options.noTimestamps
    · exact fun column set => List.mem_append_right _ (by revert column; decide)
    · exact List.nil_subset _

theorem article_columns_agree :
    ColumnsAgree (.ofName "article") articleFields
      { dbModule := "@/db", schemaModule := "@/db/schema", dialect := .postgresql,
        options := {} } :=
  columns_agree (by decide) (by decide +kernel)
    (show Field.ofTokens articleTokens false = .ok articleFields by decide +kernel)
    (by decide +kernel) (by decide +kernel)

end Groundwork.Generator
