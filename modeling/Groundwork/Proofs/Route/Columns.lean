import Groundwork.Proofs.Naming.Accepted
import Groundwork.Proofs.Schema.Definition
import Groundwork.Proofs.Text.Reading
import Groundwork.Route.Actions

/-!
# Columns in server actions

The server actions of a model name columns of its table: those that their callers do without
(`listedColumns_createLead`, `listedColumns_updateLead`), the one by which rows are sorted
(`orderings_actions`), and those that an update sets itself (`assignments_actions`). They are read
below the imports, whose modules can have any name.
-/

namespace Groundwork.Route

open Text

variable {names : ModelNames}

/-! ## Readers -/

/-- The lines of a text below its last import. -/
def belowImports (source : Text) : List Text :=
  (split '\n' source).rtakeWhile fun line => (after? "import " line).isNone

/-- The columns that a line lists, each in quotes, after a text that leads up to them. -/
def listed? (lead line : Text) : Option (List Text) :=
  (after? lead line).map fun rest => (quotations rest).map Prod.snd

/-- The table that a line reads sorted, and the column by which it is sorted. -/
def ordering? (line : Text) : Option (Text × Text) := do
  let s ← after? "  return db.select().from(" line
  let (table, s) := s.span isWord
  let s ← after? ").orderBy(desc(" s
  let s ← after? (table ++ ".") s
  some (table, s.takeWhile isWord)

/-- The columns to which a line of an update gives a value. -/
def assignments? (line : Text) : Option (List Text) :=
  (after? "    .set(" line).map fun values =>
    (split ',' values).filterMap fun piece =>
      ((property? " " piece).or (property? (code "⟦ ") piece)).map Prod.fst

/-- The columns that a text lists after a lead, below its imports. -/
def listedColumns (lead source : Text) : List (List Text) :=
  (belowImports source).filterMap (listed? lead)

/-- The queries of a text that read a table sorted. -/
def orderings (source : Text) : List (Text × Text) := (belowImports source).filterMap ordering?

/-- The columns to which each update of a text gives a value. -/
def assignments (source : Text) : List (List Text) := (belowImports source).filterMap assignments?

theorem belowImports_lines (front lead rest : List Text) {last : Text} (line : '\n' ∉ last)
    (imports : (after? "import " last).isSome = true)
    (below : ∀ line ∈ rest, '\n' ∉ line ∧ after? "import " line = none) :
    belowImports (lines (front ++ (lead ++ last :: rest))) = rest ++ [[]] := by
  have cut : split '\n' (lines (front ++ (lead ++ last :: rest))) =
      (front ++ lead).flatMap (split '\n') ++ last :: (rest ++ [[]]) := by
    rw [split_lines, ← List.append_assoc, List.flatMap_append, List.flatMap_cons,
      split_of_not_mem line, flatMap_split fun line member => (below line member).1]
    simp only [List.append_assoc, List.cons_append, List.nil_append]
  unfold belowImports List.rtakeWhile
  rw [cut, List.reverse_append, List.reverse_cons, List.append_assoc,
    List.takeWhile_append_of_pos, List.singleton_append, List.takeWhile_cons_of_neg,
    List.append_nil, List.reverse_reverse]
  · simpa [Option.isSome_iff_ne_none] using imports
  · intro l member
    rcases List.mem_append.1 (List.mem_reverse.1 member) with inside | empty
    · rw [(below l inside).2]
      rfl
    · rw [List.mem_singleton.1 empty]
      rfl

/-! ## Columns without values

The caller of the actions that create and update a row does not give the generated columns. The type
of the data lists them.
-/

/-- What leads up to the columns that the action that creates a row does without. -/
def createLead (names : ModelNames) : Text :=
  "export async function create" ++ names.pascal ++ "(data: Omit<New" ++ names.pascal ++ ", "

/-- What leads up to the columns that the action that updates a row does without. -/
def updateLead (names : ModelNames) : Text :=
  "  data: Partial<Omit<New" ++ names.pascal ++ ", "

variable {s : Surroundings}

/-- The columns that a table has without being asked. -/
def generatedNames (options : Options) : List Text :=
  primaryKey :: if options.noTimestamps then [] else timestampNames

theorem quotations_generatedColumns (s : Surroundings) {rest : Text} (quote : '"' ∉ rest) :
    (quotations (s.generatedColumns ++ rest)).map Prod.snd = generatedNames s.options := by
  unfold Surroundings.generatedColumns generatedNames
  cases s.options.noTimestamps with
  | true =>
    have key := quotations_append [] "id" rest (by decide) (by decide)
    rw [quotations_of_not_mem quote] at key
    exact congrArg (List.map Prod.snd) key
  | false =>
    have third := quotations_append " | " "updatedAt" rest (by decide) (by decide)
    have second := quotations_append " | " "createdAt"
      (" | " ++ '"' :: ("updatedAt" ++ '"' :: rest)) (by decide) (by decide)
    have key := quotations_append [] "id"
      (" | " ++ '"' :: ("createdAt" ++ '"' :: (" | " ++ '"' :: ("updatedAt" ++ '"' :: rest))))
      (by decide) (by decide)
    rw [second, third, quotations_of_not_mem quote] at key
    exact congrArg (List.map Prod.snd) key

theorem listed?_lead (lead : Text) (s : Surroundings) {rest : Text} (quote : '"' ∉ rest) :
    listed? lead (lead ++ (s.generatedColumns ++ rest)) = some (generatedNames s.options) := by
  unfold listed?
  rw [after?_eq_some_iff.2 rfl]
  exact congrArg some (quotations_generatedColumns s quote)

theorem listed_createAction (s : Surroundings) (names : ModelNames) :
    (createAction s names).filterMap (listed? (createLead names)) = [generatedNames s.options] := by
  have first : listed? (createLead names) (code "export async function create" ++ names.pascal ++
      "(data: Omit<New" ++ names.pascal ++ ", " ++ s.generatedColumns ++ code ">) ⟦") =
        some (generatedNames s.options) := by
    rw [List.append_assoc _ s.generatedColumns]
    exact listed?_lead (createLead names) s (by decide)
  unfold createAction
  rw [List.append_assoc, List.singleton_append, List.filterMap_cons_some first]
  split <;> rfl

theorem listed_updateAction (s : Surroundings) (names : ModelNames) :
    (updateAction s names).filterMap (listed? (updateLead names)) = [generatedNames s.options] := by
  have third : listed? (updateLead names) ("  data: Partial<Omit<New" ++ names.pascal ++ ", " ++
      s.generatedColumns ++ ">>") = some (generatedNames s.options) := by
    rw [List.append_assoc _ s.generatedColumns]
    exact listed?_lead (updateLead names) s (by decide)
  unfold updateAction
  rw [List.append_assoc, List.cons_append, List.cons_append, List.cons_append,
    List.filterMap_cons_none rfl, List.filterMap_cons_none rfl, List.filterMap_cons_some third]
  split <;> rfl

/-! ## Updates and queries -/

/-- The columns to which an update gives a value itself. -/
def updatedNames (options : Options) : List Text :=
  if options.noTimestamps then [] else ["updatedAt".toList]

theorem assignments_updateAction (s : Surroundings) (names : ModelNames) :
    (updateAction s names).filterMap assignments? = [updatedNames s.options] := by
  have given : assignments? ("    .set(" ++ (s.updateValues ++ ")")) =
      some (updatedNames s.options) := by
    unfold Surroundings.updateValues updatedNames
    cases s.options.noTimestamps <;> decide
  unfold updateAction
  rw [List.append_assoc]
  split
  all_goals
    simp only [List.cons_append, List.nil_append, List.append_assoc]
    iterate 6 rw [List.filterMap_cons_none rfl]
    rw [List.filterMap_cons_some given]
    rfl

theorem ordering?_query (plain : Plain names.camelPlural) (s : Surroundings) :
    ordering? ("  return db.select().from(" ++ (names.camelPlural ++ (").orderBy(desc(" ++
      (names.camelPlural ++ ("." ++ (s.orderColumn ++ "));")))))) =
        some (names.camelPlural, s.orderColumn) := by
  have word : (s.orderColumn ++ ("));" : Text)).takeWhile isWord = s.orderColumn := by
    unfold Surroundings.orderColumn
    cases s.options.noTimestamps <;> decide
  have letters := all_isWord_of_plain plain
  generalize s.orderColumn = column, names.camelPlural = table at word letters ⊢
  have run : (table ++ (").orderBy(desc(" ++ (table ++ ("." ++ (column ++ "));"))))).span isWord =
      (table, ").orderBy(desc(" ++ (table ++ ("." ++ (column ++ "));")))) :=
    span_eq_iff.2 ⟨rfl, letters, (stops_cons _ _ _).2 (by decide)⟩
  have behind : after? (table ++ ".") (table ++ ("." ++ (column ++ "));"))) =
      some (column ++ "));") := after?_eq_some_iff.2 (List.append_assoc _ _ _).symm
  unfold ordering?
  simp only [Option.bind_eq_bind, after?_eq_some_iff.2 rfl, Option.bind_some, run, behind]
  rw [word]

/-! ## The lines below the imports -/

/-- Lines that can stand below the imports. -/
def Below (ls : List Text) : Prop := ∀ line ∈ ls, '\n' ∉ line ∧ after? "import " line = none

theorem Below.append {ls others : List Text} (first : Below ls) (second : Below others) :
    Below (ls ++ others) :=
  List.forall_mem_append.2 ⟨first, second⟩

theorem not_mem_keyType (s : Surroundings) : '\n' ∉ s.keyType := by
  unfold Surroundings.keyType
  split <;> decide

theorem not_mem_generatedColumns (s : Surroundings) : '\n' ∉ s.generatedColumns := by
  unfold Surroundings.generatedColumns
  split <;> decide

theorem not_mem_updateValues (s : Surroundings) : '\n' ∉ s.updateValues := by
  unfold Surroundings.updateValues
  split <;> decide

theorem below_ending : Below [code "⟧", ""] := by
  unfold Below
  decide

theorem below_revalidate (titled : names.Titled) : Below (revalidate names) := by
  have path := titled.not_mem_path (c := '\n') rfl (by decide)
  unfold Below revalidate
  simp only [List.forall_mem_cons]
  refine ⟨⟨?_, rfl⟩, by decide, by simp⟩
  simp [path, code]

theorem below_createAction (plain : names.Plain) (titled : names.Titled) (s : Surroundings) :
    Below (createAction s names) := by
  have table := plain.camelPlural.not_mem (c := '\n') rfl
  have model := titled.pascal.not_mem (c := '\n') rfl
  unfold createAction
  refine .append (.append ?_ ?_) below_ending
  · simp only [Below, List.forall_mem_singleton]
    exact ⟨by simp [model, not_mem_generatedColumns, code], rfl⟩
  · split
    · refine .append (.append ?_ (below_revalidate titled)) ?_
      · simp only [Below, List.forall_mem_cons]
        exact ⟨⟨by simp [table, code], rfl⟩, by decide, by simp⟩
      · unfold Below
        decide
    · refine .append (.append ?_ (below_revalidate titled)) ?_
      · simp only [Below, List.forall_mem_cons]
        exact ⟨⟨by simp [table, code], rfl⟩, by decide, by simp⟩
      · simp only [Below, List.forall_mem_singleton]
        exact ⟨by simp [model, code], rfl⟩

theorem below_updateAction (plain : names.Plain) (titled : names.Titled) (s : Surroundings) :
    Below (updateAction s names) := by
  have table := plain.camelPlural.not_mem (c := '\n') rfl
  have model := titled.pascal.not_mem (c := '\n') rfl
  have set : '\n' ∉ "    .set(" ++ s.updateValues ++ ")" := by simp [not_mem_updateValues]
  unfold updateAction
  refine .append (.append ?_ ?_) below_ending
  · simp only [Below, List.forall_mem_cons]
    exact ⟨⟨by simp [model, code], rfl⟩, ⟨by simp [not_mem_keyType], rfl⟩,
      ⟨by simp [model, not_mem_generatedColumns], rfl⟩, by decide, by simp⟩
  · split
    · refine .append (.append ?_ (below_revalidate titled)) ?_
      · simp only [Below, List.forall_mem_cons]
        exact ⟨by decide, ⟨by simp [table], rfl⟩, ⟨set, rfl⟩, ⟨by simp [table], rfl⟩, by decide,
          by decide, by simp⟩
      · unfold Below
        decide
    · refine .append (.append ?_ (below_revalidate titled)) ?_
      · simp only [Below, List.forall_mem_cons]
        exact ⟨by decide, ⟨by simp [table], rfl⟩, ⟨set, rfl⟩, ⟨by simp [table], rfl⟩, by decide,
          by simp⟩
      · simp only [Below, List.forall_mem_singleton]
        exact ⟨by simp [model, code], rfl⟩

/-- Around the two actions that take data, a text of actions has queries and a deletion. -/
theorem exists_belowImports (plain : names.Plain) (titled : names.Titled) (s : Surroundings) :
    ∃ queries deletion : List Text,
      belowImports (actions s names) =
        queries ++ createAction s names ++ updateAction s names ++ deletion ++ [[]] ∧
      queries.filterMap ordering? = [(names.camelPlural, s.orderColumn)] ∧
      queries.filterMap assignments? = [] ∧
      queries.filterMap (listed? (createLead names)) = [] ∧
      queries.filterMap (listed? (updateLead names)) = [] ∧
      deletion.filterMap ordering? = [] ∧ deletion.filterMap assignments? = [] ∧
      deletion.filterMap (listed? (createLead names)) = [] ∧
      deletion.filterMap (listed? (updateLead names)) = [] := by
  have table := plain.camelPlural.not_mem (c := '\n') rfl
  have model := titled.pascal.not_mem (c := '\n') rfl
  have models := titled.pascalPlural.not_mem (c := '\n') rfl
  have key := not_mem_keyType s
  have order : '\n' ∉ s.orderColumn := by
    unfold Surroundings.orderColumn
    split <;> decide
  unfold actions
  rw [List.append_assoc (_ ++ s.imports names), List.append_assoc (_ ++ s.imports names),
    List.append_assoc (_ ++ s.imports names)]
  -- The lines are read off the definition. A reader whose literal is not theirs fails by
  -- computation.
  refine ⟨[_, _, _, _, _, _, _, _, _, _, _, _, _, _, _, _, _, _], [_, _, _, _, _],
    belowImports_lines _ [_] _ (by decide) (by decide) (((Below.append ?_
      (below_createAction plain titled s)).append (below_updateAction plain titled s)).append ?_),
    ?_, rfl, rfl, rfl, rfl, rfl, rfl, rfl⟩
  · simp only [Below, List.forall_mem_cons]
    exact ⟨by decide, ⟨by simp [model, table], rfl⟩, ⟨by simp [model, table], rfl⟩, by decide,
      ⟨by simp [models, code], rfl⟩, ⟨by simp [table, order], rfl⟩, by decide, by decide,
      ⟨by simp [model, key, code], rfl⟩, by decide, by decide, ⟨by simp [table], rfl⟩,
      ⟨by simp [table], rfl⟩, by decide, by decide, by decide, by decide, by decide, by simp⟩
  · have path := titled.not_mem_path (c := '\n') rfl (by decide)
    simp only [Below, List.forall_mem_cons]
    exact ⟨⟨by simp [model, key, code], rfl⟩, ⟨by simp [table], rfl⟩, by decide,
      ⟨by simp [path], rfl⟩, by decide, by simp⟩
  · have query := ordering?_query plain.camelPlural s
    simp only [← List.append_assoc] at query
    rw [List.filterMap_cons_none rfl, List.filterMap_cons_none rfl, List.filterMap_cons_none rfl,
      List.filterMap_cons_none rfl, List.filterMap_cons_none rfl, List.filterMap_cons_some query]
    rfl

/-! ## The columns that actions name -/

theorem listedColumns_createLead (plain : names.Plain) (titled : names.Titled) (s : Surroundings) :
    listedColumns (createLead names) (actions s names) = [generatedNames s.options] := by
  obtain ⟨queries, deletion, below, -, -, before, -, -, -, behind, -⟩ :=
    exists_belowImports plain titled s
  have update : (updateAction s names).filterMap (listed? (createLead names)) = [] := by
    unfold updateAction
    split <;> rfl
  unfold listedColumns
  simp only [below, List.filterMap_append, before, listed_createAction, update, behind]
  rfl

theorem listedColumns_updateLead (plain : names.Plain) (titled : names.Titled) (s : Surroundings) :
    listedColumns (updateLead names) (actions s names) = [generatedNames s.options] := by
  obtain ⟨queries, deletion, below, -, -, -, before, -, -, -, behind⟩ :=
    exists_belowImports plain titled s
  have create : (createAction s names).filterMap (listed? (updateLead names)) = [] := by
    unfold createAction
    split <;> rfl
  unfold listedColumns
  simp only [below, List.filterMap_append, before, listed_updateAction, create, behind]
  rfl

theorem orderings_actions (plain : names.Plain) (titled : names.Titled) (s : Surroundings) :
    orderings (actions s names) = [(names.camelPlural, s.orderColumn)] := by
  obtain ⟨queries, deletion, below, sorted, -, -, -, behind, -⟩ :=
    exists_belowImports plain titled s
  have create : (createAction s names).filterMap ordering? = [] := by
    unfold createAction
    split <;> rfl
  have update : (updateAction s names).filterMap ordering? = [] := by
    unfold updateAction
    split <;> rfl
  unfold orderings
  simp only [below, List.filterMap_append, sorted, create, update, behind]
  rfl

theorem assignments_actions (plain : names.Plain) (titled : names.Titled) (s : Surroundings) :
    assignments (actions s names) = [updatedNames s.options] := by
  obtain ⟨queries, deletion, below, -, before, -, -, -, behind, -⟩ :=
    exists_belowImports plain titled s
  have create : (createAction s names).filterMap assignments? = [] := by
    unfold createAction
    split <;> rfl
  unfold assignments
  simp only [below, List.filterMap_append, before, create, assignments_updateAction, behind]
  rfl

end Groundwork.Route
