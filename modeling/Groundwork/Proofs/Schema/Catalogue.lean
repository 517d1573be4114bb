import Groundwork.Proofs.Schema.ImportLine
import Groundwork.Proofs.Schema.Swap

/-!
# Schema files as catalogues

A catalogue is what a schema file that was only generated declares: its models, one for each table,
in the order in which the tables came. The three ways to write a schema file act on the text of a
catalogue as adding to it, or replacing in it, does on the catalogue (`create_eq_text`,
`append_text`, `replace_text`), and the file has a table exactly if the catalogue does
(`hasTable_text_iff`).
-/

namespace Groundwork.Schema

open Text

/-- A model as it is declared in a schema file. -/
structure Model where
  names : ModelNames
  fields : List Field
  options : Options

namespace Model

/-- The table that the model is kept under. -/
def table (m : Model) : Text := m.names.table

/-- All that a schema file declares for the model. -/
def definitions (m : Model) (dialect : Dialect) : Text :=
  Schema.definitions m.names m.fields dialect m.options

/-- The builders that the model calls. -/
def imports (m : Model) (dialect : Dialect) : List Text :=
  requiredImports m.fields dialect m.options

end Model

/-- The models with one more, in place of the one that has its table, or at the end. -/
def putModel (m : Model) : List Model → List Model
  | [] => [m]
  | old :: models => if old.table = m.table then m :: models else old :: putModel m models

/-- What a schema file declares. -/
structure Catalogue where
  /-- All models that were ever written, in order. -/
  written : List Model := []
  /-- The models that are declared, in the order in which their tables came. -/
  models : List Model := []

namespace Catalogue

/-- The catalogue declares a model for the table. -/
def has (catalogue : Catalogue) (table : Text) : Bool :=
  catalogue.models.any fun m => m.table = table

/-- The catalogue after a model was written. -/
def put (catalogue : Catalogue) (m : Model) : Catalogue :=
  ⟨catalogue.written ++ [m], putModel m catalogue.models⟩

/-- The builders that were called by any model that was written, in the order of first use. -/
def symbols (catalogue : Catalogue) (dialect : Dialect) : List Text :=
  (catalogue.written.flatMap fun m => m.imports dialect).eraseDups

/-- The text of a catalogue: one import statement, then the definitions of the models, with an empty
    line between two parts. -/
def text (catalogue : Catalogue) (dialect : Dialect) : Text :=
  importStatement (catalogue.symbols dialect) dialect ++ "\n\n"
    ++ List.intercalate "\n\n" (catalogue.models.map fun m => m.definitions dialect) ++ "\n"

/-- No two models with different tables export enums of one name. -/
def EnumsApart (catalogue : Catalogue) (dialect : Dialect) : Prop :=
  ∀ m ∈ catalogue.models, ∀ other ∈ catalogue.models, m.table ≠ other.table →
    ∀ f ∈ exportedEnums m.fields dialect, ∀ g ∈ exportedEnums other.fields dialect,
      enumName m.names f ≠ enumName other.names g

/-- A catalogue whose text can be taken apart again. -/
structure Proper (catalogue : Catalogue) : Prop where
  models : ∀ m ∈ catalogue.models, ProperModel m.names m.fields
  distinct : (catalogue.models.map Model.table).Nodup
  written : catalogue.written ≠ []
  nonempty : catalogue.models ≠ []

end Catalogue

/-! ## Models in order -/

theorem putModel_absent {m : Model} {models : List Model}
    (absent : ∀ old ∈ models, old.table ≠ m.table) : putModel m models = models ++ [m] := by
  induction models with
  | nil => rfl
  | cons old models ih =>
    have rest := ih fun other member => absent other (List.mem_cons_of_mem _ member)
    simp [putModel, absent old (by simp), rest]

theorem putModel_present {m old : Model} {earlier later : List Model}
    (absent : ∀ other ∈ earlier, other.table ≠ m.table) (same : old.table = m.table) :
    putModel m (earlier ++ old :: later) = earlier ++ m :: later := by
  induction earlier with
  | nil => simp [putModel, same]
  | cons other earlier ih =>
    have rest := ih fun another member => absent another (List.mem_cons_of_mem _ member)
    simp [putModel, absent other (by simp), rest]

theorem mem_putModel {m other : Model} {models : List Model} (member : other ∈ putModel m models) :
    other = m ∨ other ∈ models := by
  induction models with
  | nil => exact .inl (List.mem_singleton.1 member)
  | cons old models ih =>
    unfold putModel at member
    split at member
    · rcases List.mem_cons.1 member with rfl | later
      · exact .inl rfl
      · exact .inr (List.mem_cons_of_mem _ later)
    · rcases List.mem_cons.1 member with rfl | later
      · exact .inr List.mem_cons_self
      · exact (ih later).imp_right (List.mem_cons_of_mem _)

/-- There is one model for each table, whichever model is put in. -/
theorem nodup_putModel {models : List Model} (distinct : (models.map Model.table).Nodup)
    (m : Model) : ((putModel m models).map Model.table).Nodup := by
  induction models with
  | nil => simp [putModel]
  | cons old models ih =>
    obtain ⟨fresh, rest⟩ := List.nodup_cons.1 distinct
    unfold putModel
    split
    · next same =>
      rw [List.map_cons, ← same]
      exact distinct
    · next other =>
      refine List.nodup_cons.2 ⟨fun listed => ?_, ih rest⟩
      obtain ⟨another, member, table⟩ := List.mem_map.1 listed
      rcases mem_putModel member with rfl | later
      · exact other table.symm
      · exact fresh (table ▸ List.mem_map_of_mem later)

namespace Catalogue

variable {catalogue : Catalogue} {dialect : Dialect}

theorem has_eq_true_iff {table : Text} :
    catalogue.has table = true ↔ ∃ m ∈ catalogue.models, m.table = table := by
  simp [has]

theorem put_absent {m : Model} (absent : catalogue.has m.table = false) :
    (catalogue.put m).models = catalogue.models ++ [m] := by
  refine putModel_absent fun old member same => ?_
  rw [has_eq_true_iff.2 ⟨old, member, same⟩] at absent
  exact absurd absent (by decide)

/-- A table that the catalogue has stands at one place. -/
theorem Proper.cut (proper : catalogue.Proper) {table : Text}
    (present : catalogue.has table = true) :
    ∃ earlier old later, catalogue.models = earlier ++ old :: later ∧ old.table = table ∧
      (∀ m ∈ earlier, m.table ≠ table) ∧ ∀ m ∈ later, m.table ≠ table := by
  obtain ⟨old, member, rfl⟩ := has_eq_true_iff.1 present
  obtain ⟨earlier, later, cut⟩ := List.append_of_mem member
  have distinct := proper.distinct
  rw [cut, List.map_append, List.map_cons, List.nodup_append] at distinct
  obtain ⟨-, atOld, apart⟩ := distinct
  refine ⟨earlier, old, later, cut, rfl, ?_, ?_⟩
  · intro m inside same
    exact apart m.table (List.mem_map_of_mem inside) old.table (by simp) same
  · intro m inside same
    exact (List.nodup_cons.1 atOld).1 (same ▸ List.mem_map_of_mem inside)

/-- Writing a model keeps the catalogue proper. -/
theorem Proper.put (proper : catalogue.Proper) {m : Model} (model : ProperModel m.names m.fields) :
    (catalogue.put m).Proper where
  models := by
    intro other member
    rcases mem_putModel member with rfl | old
    · exact model
    · exact proper.models other old
  distinct := nodup_putModel proper.distinct m
  written := by simp [Catalogue.put]
  nonempty := by
    obtain ⟨old, models, given⟩ := List.exists_cons_of_ne_nil proper.nonempty
    unfold Catalogue.put
    rw [given, putModel]
    split <;> simp

/-! ## Symbols -/

theorem nodup_eraseDups : ∀ l : List Text, l.eraseDups.Nodup
  | [] => List.nodup_nil
  | a :: l => by
    have rest := nodup_eraseDups (l.filter fun b => !b == a)
    rw [List.eraseDups_cons, List.nodup_cons]
    exact ⟨by simp [List.mem_eraseDups], rest⟩
termination_by l => l.length
decreasing_by exact Nat.lt_succ_of_le (List.length_filter_le _ _)

/-- Repetitions in the first of two lists do not matter when repetitions are erased. -/
theorem eraseDups_append_left (l r : List Text) :
    (l.eraseDups ++ r).eraseDups = (l ++ r).eraseDups := by
  have same : r.removeAll l.eraseDups = r.removeAll l := by
    unfold List.removeAll
    refine List.filter_congr fun a _ => ?_
    simp [List.mem_eraseDups]
  rw [List.eraseDups_append, List.eraseDups_append, eraseDups_of_nodup (nodup_eraseDups l), same]

/-- The builders that a model calls are plain words. -/
theorem symbols_requiredImports (fields : List Field) (dialect : Dialect) (options : Options) :
    Symbols (requiredImports fields dialect options) := by
  have table : dialect.tableBuilder ≠ [] ∧ Plain dialect.tableBuilder := by
    cases dialect <;> decide
  have key : keyBuilder dialect options.uuid ≠ [] ∧ Plain (keyBuilder dialect options.uuid) := by
    cases dialect <;> cases options.uuid <;> decide
  have stamp : timestampBuilder dialect ≠ [] ∧ Plain (timestampBuilder dialect) := by
    cases dialect <;> decide
  have enum : ∀ builder ∈ dialect.enumBuilder?.toList, builder ≠ [] ∧ Plain builder := by
    cases dialect <;> simp [Dialect.enumBuilder?] <;> decide
  have reference : (referenceType dialect options.uuid).builder ≠ [] ∧
      Plain (referenceType dialect options.uuid).builder := by
    cases dialect <;> cases options.uuid <;> decide
  have column (kind : FieldKind) : (ColumnType.ofKind dialect kind).builder ≠ [] ∧
      Plain (ColumnType.ofKind dialect kind).builder := by
    cases dialect <;> cases kind <;> decide
  intro symbol member
  unfold requiredImports at member
  have listed := List.mem_eraseDups.1 member
  simp only [List.mem_append, List.mem_cons, List.not_mem_nil, or_false] at listed
  rcases listed with ((((rfl | rfl) | stamps) | enums) | columns) | sqlite
  · exact table
  · exact key
  · split at stamps
    · cases stamps
    · rw [List.mem_singleton.1 stamps]
      exact stamp
  · split at enums
    · exact enum symbol enums
    · cases enums
  · obtain ⟨f, -, given⟩ := List.mem_flatMap.1 columns
    split at given
    · cases given
    · split at given
      · rw [List.mem_singleton.1 given]
        exact reference
      · rw [List.mem_singleton.1 given]
        exact column f.kind
  · split at sqlite
    · rw [List.mem_singleton.1 sqlite]
      decide
    · cases sqlite

theorem symbols_symbols (catalogue : Catalogue) (dialect : Dialect) :
    Symbols (catalogue.symbols dialect) := by
  intro symbol member
  obtain ⟨m, -, given⟩ := List.mem_flatMap.1 (List.mem_eraseDups.1 member)
  exact symbols_requiredImports m.fields dialect m.options symbol given

theorem symbols_put (catalogue : Catalogue) (dialect : Dialect) (m : Model) :
    (catalogue.put m).symbols dialect =
      (catalogue.symbols dialect ++ m.imports dialect).eraseDups := by
  unfold symbols put
  rw [eraseDups_append_left, List.flatMap_append, List.flatMap_singleton]

/-! ## The text of a catalogue -/

/-- The text of a generated file up to the pieces that follow those in `earlier`. -/
def opening (symbols : List Text) (dialect : Dialect) (earlier : List Text) : Text :=
  importStatement symbols dialect ++
    ("\n\n" ++ (earlier.flatMap fun piece => piece ++ "\n\n" : Text))

/-- The text of a generated file after the pieces that precede those in `later`. -/
def ending (later : List Text) : Text := (later.flatMap fun piece => "\n\n" ++ piece : Text) ++ "\n"

section Parts

variable {recognise : Option Char → Text → Option Text}

theorem inert_opening (exports : RecognisesExports recognise) {symbols : List Text}
    (good : Symbols symbols) (dialect : Dialect) {earlier : List Text}
    (inert : ∀ piece ∈ earlier, Inert recognise piece) :
    Inert recognise (opening symbols dialect earlier) := by
  have feeds : Inert recognise "\n\n" := exports.inert_feed.append exports.inert_feed
  have statement : Inert recognise (importStatement symbols dialect) := by
    refine exports.inert_line ?_ fun before t => exports.eq_none (by decide) before _
    exact not_mem_importStatement good dialect rfl
  exact statement.append (feeds.append (Inert.flatMap fun piece member =>
    (inert piece member).append feeds))

theorem inert_ending (exports : RecognisesExports recognise) {later : List Text}
    (inert : ∀ piece ∈ later, Inert recognise piece) : Inert recognise (ending later) := by
  have feeds : Inert recognise "\n\n" := exports.inert_feed.append exports.inert_feed
  exact (Inert.flatMap fun piece member => feeds.append (inert piece member)).append
    exports.inert_feed

theorem beginsLine_opening (symbols : List Text) (dialect : Dialect) (earlier : List Text) :
    beginsLine (charBefore none (opening symbols dialect earlier)) = true := by
  unfold opening
  rw [charBefore_append, charBefore_append]
  exact beginsLine_flatMap rfl fun piece _ => ⟨piece ++ ['\n'], by simp⟩

theorem atLineEnd_ending (later : List Text) : atLineEnd (ending later) = true := by
  cases later <;> rfl

end Parts

/-- The text before the definitions that follow the models `earlier`. -/
def front (catalogue : Catalogue) (dialect : Dialect) (earlier : List Model) : Text :=
  opening (catalogue.symbols dialect) dialect (earlier.map fun m => m.definitions dialect)

/-- The text after the definitions that precede the models `later`. -/
def back (dialect : Dialect) (later : List Model) : Text :=
  ending (later.map fun m => m.definitions dialect)

/-- The text of a catalogue, taken apart at one of its models. -/
theorem text_cut {earlier later : List Model} {m : Model}
    (cut : catalogue.models = earlier ++ m :: later) :
    catalogue.text dialect =
      catalogue.front dialect earlier ++ (m.definitions dialect ++ back dialect later) := by
  unfold text front back opening ending
  rw [cut, List.map_append, List.map_cons, intercalate_cut]
  simp

/-! ## Writing a file -/

/-- A file that is created declares one model. -/
theorem create_eq_text (m : Model) (dialect : Dialect) :
    create m.names m.fields dialect m.options = ((⟨[], []⟩ : Catalogue).put m).text dialect := by
  have symbols : (((⟨[], []⟩ : Catalogue).put m).symbols dialect) = m.imports dialect := by
    rw [symbols_put]
    exact eraseDups_of_nodup (nodup_eraseDups _)
  unfold create text
  rw [symbols]
  simp [put, putModel, Model.imports, Model.definitions]

/-- A model that is appended to a file is put at the end of its catalogue. -/
theorem append_text (proper : catalogue.Proper) {m : Model}
    (absent : catalogue.has m.table = false) :
    append (catalogue.text dialect) m.names m.fields dialect m.options =
      (catalogue.put m).text dialect := by
  have ends : endsWith "\n" (catalogue.text dialect) = true := by
    rw [endsWith_iff]
    unfold text
    exact List.suffix_append _ _
  obtain ⟨first, rest, models⟩ := List.exists_cons_of_ne_nil proper.nonempty
  have content : catalogue.text dialect ++ "\n" ++ m.definitions dialect ++ "\n" =
      importStatement (catalogue.symbols dialect) dialect ++ ("\n\n" ++ (List.intercalate "\n\n"
        ((catalogue.put m).models.map fun m => m.definitions dialect) ++ "\n")) := by
    unfold text
    rw [put_absent absent, List.map_append, List.map_singleton, models, List.map_cons,
      List.cons_append, intercalate_cons, intercalate_cons, List.flatMap_append]
    simp
  unfold append
  rw [ends]
  simp only [if_true]
  rw [show Schema.definitions m.names m.fields dialect m.options = m.definitions dialect from rfl,
    content, mergeImports_importStatement (symbols_symbols catalogue dialect)]
  unfold text
  rw [symbols_put]
  simp [Model.imports]

/-! ## Replacing in a file -/

variable {recognise : Option Char → Text → Option Text}

theorem inert_front (exports : RecognisesExports recognise) {earlier : List Model}
    (inert : ∀ m ∈ earlier, Inert recognise (m.definitions dialect)) :
    Inert recognise (catalogue.front dialect earlier) :=
  inert_opening exports (symbols_symbols catalogue dialect) dialect (List.forall_mem_map.2 inert)

theorem inert_back (exports : RecognisesExports recognise) {later : List Model}
    (inert : ∀ m ∈ later, Inert recognise (m.definitions dialect)) :
    Inert recognise (back dialect later) :=
  inert_ending exports (List.forall_mem_map.2 inert)

theorem beginsLine_front (catalogue : Catalogue) (dialect : Dialect) (earlier : List Model) :
    beginsLine (charBefore none (catalogue.front dialect earlier)) = true :=
  beginsLine_opening _ _ _

theorem atLineEnd_back (dialect : Dialect) (later : List Model) :
    atLineEnd (back dialect later) = true :=
  atLineEnd_ending _

/-- In MySQL nothing of the other models goes with a table that calls `mysqlEnum`. -/
theorem remaining_front_back {earlier later : List Model}
    (inFront : ∀ m ∈ earlier, OneLineModel m.names m.fields)
    (inBack : ∀ m ∈ later, OneLineModel m.names m.fields) (fields : List Field) :
    remaining dialect fields (catalogue.front dialect earlier) (back dialect later) =
      (catalogue.front dialect earlier, back dialect later) := by
  unfold remaining
  split
  · next called =>
    have letters : ("mysqlEnum" : Text).all isWord = true := by decide
    have exports := recognisesExports_afterEnumExport? (not_mem_feed_of_all_isWord letters)
    have inert {m : Model} (oneLine : OneLineModel m.names m.fields) :
        Inert (afterEnumExport? "mysqlEnum") (m.definitions dialect) :=
      inert_afterEnumExport?_definitions oneLine dialect m.options letters
        fun f given => by simp [called.1, exportedEnums] at given
    have inertFront : Inert (afterEnumExport? "mysqlEnum") (catalogue.front dialect earlier) :=
      inert_front exports fun m given => inert (inFront m given)
    have inertBack : Inert (afterEnumExport? "mysqlEnum") (back dialect later) :=
      inert_back exports fun m given => inert (inBack m given)
    exact dropAround_of_none (search_of_free exports (inertFront none []))
      (search_of_free exports (inertBack none []))
  · rfl

/-- A model that is replaced in a file takes the place of the one that has its table. -/
theorem replace_text (proper : catalogue.Proper) (apart : catalogue.EnumsApart dialect) {m : Model}
    (spellings : m.names.Plain) (present : catalogue.has m.table = true) :
    replace (catalogue.text dialect) m.names m.fields dialect m.options =
      .ok ((catalogue.put m).text dialect) := by
  obtain ⟨earlier, old, later, cut, same, before, after⟩ := proper.cut present
  have member : old ∈ catalogue.models := by simp [cut]
  have inFront : ∀ other ∈ earlier, other ∈ catalogue.models := fun other inside => by
    simp [cut, inside]
  have inBack : ∀ other ∈ later, other ∈ catalogue.models := fun other inside => by
    simp [cut, inside]
  have freeTable : Inert (headerAt? m.table) (catalogue.front dialect earlier) :=
    inert_front (recognisesExports_headerAt? (spellings.table.not_mem rfl)) fun other inside =>
      inert_headerAt?_definitions (proper.models other (inFront other inside)).oneLine dialect
        other.options spellings.table (before other inside)
  have freeEnums : ∀ f ∈ exportedEnums old.fields dialect,
      Inert (afterEnumExport? (enumName old.names f)) (catalogue.front dialect earlier) := by
    intro f given
    have plain := plain_enumName (proper.models old member).spellings
      (oneLine_of_mem_exportedEnums (proper.models old member).oneLine _ f given).plain
    refine inert_front (recognisesExports_afterEnumExport? (plain.not_mem rfl)) fun other inside =>
      inert_afterEnumExport?_definitions (proper.models other (inFront other inside)).oneLine
        dialect other.options (all_isWord_of_plain plain) fun g listed =>
          apart other (inFront other inside) old member ?_ g listed f given
    rw [same]
    exact before other inside
  have kept : remaining dialect old.fields (catalogue.front dialect earlier) (back dialect later) =
      (catalogue.front dialect earlier, back dialect later) := remaining_front_back
    (fun other inside => (proper.models other (inFront other inside)).oneLine)
    (fun other inside => (proper.models other (inBack other inside)).oneLine) old.fields
  have replaced := replace_definitions_of_remaining m.fields (proper.models old member)
    (same : old.names.table = m.names.table) dialect old.options m.options
    (beginsLine_front catalogue dialect earlier) (freeTable none [])
    (fun f given => freeEnums f given none []) (atLineEnd_back dialect later) kept
  have models : (catalogue.put m).models = earlier ++ m :: later := by
    unfold put
    rw [cut]
    exact putModel_present before same
  rw [text_cut cut]
  refine replaced.trans (congrArg Except.ok ?_)
  unfold front opening
  rw [List.append_assoc, mergeImports_importStatement (symbols_symbols catalogue dialect),
    text_cut models]
  unfold front opening
  rw [symbols_put]
  simp [Model.imports, Model.definitions]

/-! ## The tables of a file -/

theorem hasTable_feeds_append (s table : Text) :
    hasTable ("\n\n" ++ s) table = true ↔ hasTable s table = true :=
  hasTable_append_of_not_isTableWord rfl (by simp [calledNames, callsAfter]) s table

theorem hasTable_back_iff {later : List Model}
    (inline : ∀ m ∈ later, InlineModel m.names m.fields) {table : Text} (plain : Plain table) :
    hasTable (back dialect later) table = true ↔ ∃ m ∈ later, m.table = table := by
  induction later with
  | nil =>
    rw [hasTable_iff_calls]
    simp [back, ending, callsAfter]
  | cons m later ih =>
    have rest := ih fun other member => inline other (List.mem_cons_of_mem _ member)
    have text : back dialect (m :: later) =
        "\n\n" ++ (m.definitions dialect ++ back dialect later) := by
      simp [back, ending]
    rw [text, hasTable_feeds_append, Model.definitions,
      hasTable_definitions_append (inline m (by simp)) dialect m.options plain, rest]
    simp [Model.table]

/-- The file has a table exactly if its catalogue does. -/
theorem hasTable_text_iff (proper : catalogue.Proper) {table : Text} (plain : Plain table) :
    hasTable (catalogue.text dialect) table = true ↔ catalogue.has table = true := by
  obtain ⟨first, rest, models⟩ := List.exists_cons_of_ne_nil proper.nonempty
  have inline : ∀ m ∈ first :: rest, InlineModel m.names m.fields := fun m member =>
    (proper.models m (models ▸ member)).toInlineModel
  have noCall : '(' ∉ importStatement (catalogue.symbols dialect) dialect :=
    not_mem_importStatement (symbols_symbols catalogue dialect) dialect rfl
  have ended : lastWord [] (importStatement (catalogue.symbols dialect) dialect) = [] := by
    unfold importStatement
    rw [lastWord_append]
    rfl
  rw [text_cut (show catalogue.models = [] ++ first :: rest from models)]
  unfold front opening
  rw [List.append_assoc, hasTable_append_of_not_isTableWord ended
    (by simp [calledNames_of_not_mem noCall]), List.map_nil, List.flatMap_nil, List.append_nil,
    hasTable_feeds_append, Model.definitions,
    hasTable_definitions_append (inline first (by simp)) dialect first.options plain,
    hasTable_back_iff (fun m member => inline m (List.mem_cons_of_mem _ member)) plain,
    has_eq_true_iff, models]
  simp [Model.table]

/-- The text of a catalogue has no carriage returns. -/
theorem not_mem_return_text (proper : catalogue.Proper) : '\r' ∉ catalogue.text dialect := by
  have statement : '\r' ∉ importStatement (catalogue.symbols dialect) dialect :=
    not_mem_importStatement (symbols_symbols catalogue dialect) dialect rfl
  have parts : '\r' ∉ List.intercalate "\n\n"
      (catalogue.models.map fun m => m.definitions dialect) := by
    intro member
    rcases mem_intercalate member with gap | ⟨piece, listed, inside⟩
    · simp at gap
    · obtain ⟨m, given, rfl⟩ := List.mem_map.1 listed
      have model := proper.models m given
      exact not_mem_return_definitions model.oneLine dialect m.options inside
  unfold text
  simp only [List.mem_append, not_or]
  exact ⟨⟨⟨statement, by decide⟩, parts⟩, by decide⟩

end Catalogue

end Groundwork.Schema
