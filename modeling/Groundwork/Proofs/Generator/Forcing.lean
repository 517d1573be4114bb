import Groundwork.Proofs.Generator.Plan
import Groundwork.Proofs.Schema.Layout

/-!
# Replacing a model by force

With `force` a model that the schema file has is replaced and not refused. Whether the file has the
model is asked with `hasTable`, the replacement looks for a block; so the command finds a model and
then not its table exactly where the table is known without a block
(`replaced_iff_hasBlock`).
-/

namespace Groundwork.Generator

open Schema Text

variable {g : Generator} {name : Text} {tokens : List Text} {names : ModelNames}
  {fields : List Field} {content : Text} {s : Session}

/-- The disk can be asked for a file that is read. -/
theorem checkNames_of_read {disk : Disk} {path : Path} (read : disk.read path = .ok content) :
    disk.checkNames path = .ok () := by
  unfold Disk.read at read
  unfold Disk.checkNames
  split at read
  · cases read
  · next location found => rw [found]

/-- The draft of a schema file that exists is what the model is merged to. -/
theorem schemaDraft_of_read (named : g.named name tokens = .ok (names, fields))
    (read : s.disk.read g.settings.schemaFile = .ok content) :
    g.schemaDraft s.disk name tokens =
      (g.mergedSchema content names fields).map fun text => ⟨g.schemaPath, text, true⟩ := by
  unfold schemaDraft
  rw [named]
  simp only [bind, Except.bind, checkNames_of_read read, Disk.has_of_read read, read,
    Bool.not_true, Bool.false_eq_true, if_false]
  cases g.mergedSchema content names fields <;> rfl

/-- The command misses a table exactly if the merge does: all other faults are those of the disk. -/
theorem model_tableNotFound_iff (named : g.named name tokens = .ok (names, fields))
    (read : s.disk.read g.settings.schemaFile = .ok content) {table : Text} :
    ((g.model name tokens).on s).1 = .error (.tableNotFound table) ↔
      g.mergedSchema content names fields = .error (.tableNotFound table) := by
  rw [(g.model_follows name tokens s).eq_error_iff rfl, schemaDraft_of_read named read]
  cases g.mergedSchema content names fields with
  | error failure => simp [Except.map, bind, Except.bind]
  | ok text => simp [Except.map, bind, Except.bind, pure, Except.pure]

/-- With `force` a model that is merged is replaced where the file has its table, and is appended
    elsewhere. -/
theorem mergedSchema_tableNotFound_iff (force : g.options.force = true) :
    g.mergedSchema content names fields = .error (.tableNotFound names.table) ↔
      hasTable content names.table = true ∧ ¬ HasBlock content names.table := by
  unfold mergedSchema
  cases hasTable content names.table with
  | false => simp
  | true =>
    rw [if_pos rfl, if_pos force]
    by_cases block : HasBlock content names.table
    · obtain ⟨result, replaced⟩ : ∃ result, Schema.replace content names fields g.settings.dialect
          g.options = .ok result := replace_eq_of_hasBlock block
      simp [replaced, block]
    · simp [replace_eq_of_not_hasBlock block, block]

/-- A model is replaced exactly where the file has a block of its table, and wherever the model was
    generated it has one. So with `force` the command finds a model and misses its table exactly
    where the table is called without a block. -/
theorem replaced_iff_hasBlock (content : Text) (names : ModelNames) (fields : List Field)
    (dialect : Dialect) (options : Options) :
    (HasBlock content names.table → hasTable content names.table = true ∧
      ∃ result, Schema.replace content names fields dialect options = .ok result) ∧
    (¬ HasBlock content names.table →
      Schema.replace content names fields dialect options = .error (.tableNotFound names.table)) ∧
    (∀ (p s : Text) (old : ModelNames) (oldFields : List Field) (oldDialect : Dialect)
      (oldOptions : Options), AcceptedModel old oldFields → old.table = names.table →
        content = p ++ (definitions old oldFields oldDialect oldOptions ++ s) →
          beginsLine (charBefore none p) = true → atLineEnd s = true →
            HasBlock content names.table) ∧
    ∀ (g : Generator) (name : Text) (tokens : List Text) (s : Session),
      g.named name tokens = .ok (names, fields) →
        s.disk.read g.settings.schemaFile = .ok content → g.options.force = true →
          (((g.model name tokens).on s).1 = .error (.tableNotFound names.table) ↔
            hasTable content names.table = true ∧ ¬ HasBlock content names.table) := by
  refine ⟨fun block => ⟨block.hasTable, replace_eq_of_hasBlock block⟩, replace_eq_of_not_hasBlock,
    ?_, ?_⟩
  · rintro p s old oldFields oldDialect oldOptions accepted sameTable rfl begins ends
    rw [← sameTable]
    exact hasBlock_definitions accepted oldDialect oldOptions begins ends
  · intro g name tokens s named read force
    exact (model_tableNotFound_iff named read).trans (mergedSchema_tableNotFound_iff force)

/-- A project at the top's directory `p` with a schema file. -/
def schemaDisk (content : Text) : Disk where
  entries := [(["p"], .directory), (["p", "db"], .directory),
    (["p", "db", "schema.ts"], .file (.text content))]

/-- The project at the top's directory `p`, where tables that exist are replaced. -/
def forcing : Generator where
  settings := { root := ⟨"/", ["p"]⟩, dialect := .postgresql }
  options := { force := true }

/-- A generated model between comments. -/
def commentedPosts : Text :=
  "// models\n" ++ (definitions (.ofName "post") [statusField] .postgresql {} ++ "\n// end")

/-- A model between comments is replaced. -/
theorem commentedPosts_replaced :
    hasTable commentedPosts "posts" = true ∧
      (∃ result, Schema.replace commentedPosts (.ofName "posts") [] .postgresql {} = .ok result) ∧
      ((forcing.model "posts" []).on { disk := schemaDisk commentedPosts }).1 ≠
        .error (.tableNotFound "posts") := by
  obtain ⟨replaced, -, generated, forced⟩ :=
    replaced_iff_hasBlock commentedPosts (.ofName "posts") [] .postgresql {}
  have read : Field.ofTokens ["status:enum:a,b"] false = .ok [statusField] := by decide +kernel
  have accepted : AcceptedModel (.ofName "post") [statusField] :=
    ⟨⟨"post", rfl, by decide, by decide +kernel⟩, ⟨_, _, read⟩, by decide +kernel⟩
  have block := generated "// models\n" "\n// end" _ _ .postgresql {} accepted (by decide +kernel)
    rfl rfl rfl
  obtain ⟨known, result⟩ := replaced block
  refine ⟨known, result, fun failed => ?_⟩
  have missing := (forced forcing "posts" [] _ (by decide +kernel) (by decide +kernel) rfl).1 failed
  exact missing.2 block

/-- The text is known to have the table `posts`, but neither a replacement nor a forced model finds
    it. -/
def Misses (content : Text) : Prop :=
  hasTable content "posts" = true ∧
    Schema.replace content (.ofName "post") [] .postgresql {} = .error (.tableNotFound "posts") ∧
    ((forcing.model "post" []).on { disk := schemaDisk content }).1 =
      .error (.tableNotFound "posts")

/-- A table on one line, one that is not exported, and one with constraints after its columns are
    missed. -/
theorem forced_model_misses_table :
    Misses (Text.code
        "export const posts = pgTable(\"posts\", ⟦ id: serial(\"id\").primaryKey() ⟧);\n") ∧
      Misses (Text.code
        "const posts = pgTable(\"posts\", ⟦\n  id: serial(\"id\").primaryKey(),\n⟧);\n") ∧
      Misses (Text.code ("export const posts = pgTable(\"posts\", ⟦\n"
        ++ "  id: serial(\"id\").primaryKey(),\n"
        ++ "⟧, (table) => [index(\"posts_id\").on(table.id)]);\n")) := by
  unfold Misses
  decide +kernel

end Groundwork.Generator
