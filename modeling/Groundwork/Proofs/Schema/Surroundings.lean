import Groundwork.Proofs.Schema.Swap

/-!
# A model among other text

Replacing a model whose definitions were generated, where any text may stand before and after them.
Everything around the definitions stays, unless the model has enums in MySQL and somebody exports an
enum under the name of the builder that they call.
-/

namespace Groundwork

open Text

/-- The texts that a field brings into the definitions of its model. -/
def Field.texts (f : Field) : List Text := f.name :: f.target.getD [] :: f.choiceList

/-- A field that was read from a token keeps to its line if its texts do. -/
theorem Field.oneLine_of_wellFormed {f : Field} (wellFormed : f.WellFormed)
    (oneLine : ∀ text ∈ f.texts, isOneLine text = true) : f.OneLine := by
  have noFeed := (isOneLine_iff.1 (oneLine f.name (by simp [texts]))).1
  obtain ⟨c, s, cut, -⟩ := letters_of_isIdentifier noFeed wellFormed.identifier
  exact {
    plain := plain_of_isIdentifier noFeed wellFormed.identifier
    nonempty := by simp [cut]
    choices := fun value given => oneLine value (by simp [texts, given])
    target := oneLine _ (by simp [texts]) }

/-- A field that was read from a token keeps to its line and calls nothing if its texts do. -/
theorem Field.inline_of_wellFormed {f : Field} (wellFormed : f.WellFormed)
    (inline : ∀ text ∈ f.texts, isOneLine text = true ∧ '(' ∉ text) : f.Inline := by
  have oneLine := oneLine_of_wellFormed wellFormed fun text given => (inline text given).1
  exact {
    plain := oneLine.plain
    nonempty := oneLine.nonempty
    choices := fun value given => inline value (by simp [texts, given])
    target := inline _ (by simp [texts]) }

/-- The texts of fields keep to their lines if the tokens do that they were read from. -/
theorem Field.isOneLine_texts {tokens : List Text} {noTimestamps : Bool} {fields : List Field}
    (read : Field.ofTokens tokens noTimestamps = .ok fields)
    (oneLine : ∀ token ∈ tokens, isOneLine token = true) :
    ∀ f ∈ fields, ∀ text ∈ f.texts, isOneLine text = true := by
  intro f member text among
  obtain ⟨token, listed, readToken⟩ := (Field.ofTokensAfter_spec read).1 f member
  obtain ⟨name, choices, target⟩ := Field.mem_of_ofToken readToken
  have subset : text ⊆ token := by
    rcases List.mem_cons.1 among with rfl | among
    · exact name
    · rcases List.mem_cons.1 among with rfl | among
      · exact target
      · exact choices text among
  exact isOneLine_of_subset subset (oneLine token listed)

namespace Schema

/-- A model that was accepted, with fields whose texts keep to their lines and call nothing. -/
theorem properModel_ofTokens {name : Text} {tokens : List Text} {noTimestamps : Bool}
    {fields : List Field} (line : '\n' ∉ name) (valid : checkModelName name = .ok ())
    (read : Field.ofTokens tokens noTimestamps = .ok fields)
    (inline : ∀ f ∈ fields, ∀ text ∈ f.texts, isOneLine text = true ∧ '(' ∉ text) :
    ProperModel (ModelNames.ofName name) fields := by
  have fit := Field.fitTogether_of_ofTokens read
  exact {
    spellings := ModelNames.plain_ofName (plain_of_checkModelName line valid)
    columns := fun f member =>
      Field.inline_of_wellFormed (fit.wellFormed f member) (inline f member)
    fit := fit }

/-- The model has an accepted name and fields that were read from tokens, with texts that keep to
    their lines. -/
structure AcceptedModel (names : ModelNames) (fields : List Field) : Prop where
  named : ∃ name, names = ModelNames.ofName name ∧ '\n' ∉ name ∧ checkModelName name = .ok ()
  read : ∃ tokens noTimestamps, Field.ofTokens tokens noTimestamps = .ok fields
  oneLine : ∀ f ∈ fields, ∀ text ∈ f.texts, isOneLine text = true

theorem AcceptedModel.fitTogether {names : ModelNames} {fields : List Field}
    (accepted : AcceptedModel names fields) : Field.FitTogether fields := by
  obtain ⟨tokens, noTimestamps, read⟩ := accepted.read
  exact Field.fitTogether_of_ofTokens read

theorem AcceptedModel.oneLineModel {names : ModelNames} {fields : List Field}
    (accepted : AcceptedModel names fields) : OneLineModel names fields := by
  obtain ⟨name, rfl, line, valid⟩ := accepted.named
  exact {
    spellings := ModelNames.plain_ofName (plain_of_checkModelName line valid)
    columns := fun f member => Field.oneLine_of_wellFormed
      (accepted.fitTogether.wellFormed f member) (accepted.oneLine f member) }

/-- A line of the text is an export of the enum. -/
def hasEnumExport (name content : Text) : Bool :=
  (search (afterEnumExport? name) none content).isSome

/-- The old table calls an enum by the builder's name, and the text around it exports that name. -/
def LosesExport (dialect : Dialect) (oldFields : List Field) (p s : Text) : Prop :=
  dialect = .mysql ∧ oldFields.any Field.isEnum = true ∧
    (hasEnumExport "mysqlEnum" p = true ∨ hasEnumExport "mysqlEnum" s = true)

theorem remaining_of_not_losesExport {dialect : Dialect} {oldFields : List Field} {p s : Text}
    (kept : ¬ LosesExport dialect oldFields p s) : remaining dialect oldFields p s = (p, s) := by
  unfold remaining
  split
  · next called =>
    refine dropAround_of_none ?_ ?_
    · cases found : search (afterEnumExport? "mysqlEnum") none p with
      | none => rfl
      | some cut =>
        exact absurd ⟨called.1, called.2, .inl (by rw [hasEnumExport, found]; rfl)⟩ kept
    · cases found : search (afterEnumExport? "mysqlEnum") none s with
      | none => rfl
      | some cut =>
        exact absurd ⟨called.1, called.2, .inr (by rw [hasEnumExport, found]; rfl)⟩ kept
  · rfl

theorem remaining_of_losesExport {dialect : Dialect} {oldFields : List Field} {p s : Text}
    (loses : LosesExport dialect oldFields p s) :
    remaining dialect oldFields p s = dropAround "mysqlEnum" p s := by
  unfold remaining
  rw [if_pos ⟨loses.1, loses.2.1⟩]

theorem free_of_lines {recognise : Option Char → Text → Option Text} (lines : OfLines recognise)
    {p : Text} (fails : ∀ a b, p = a ++ b → beginsLine (charBefore none a) = true →
      recognise (charBefore none a) b = none) : Free recognise p := by
  intro a b cut _
  rw [List.append_nil]
  cases begins : beginsLine (charBefore none a) with
  | true => exact fails a b cut begins
  | false => exact lines _ _ begins

/-- Replacing a model whose definitions stand between `p` and `s` puts the new definitions there and
    merges the imports, unless an export of `mysqlEnum` is lost; then it is gone from the text
    around the old table before the new definitions are put in. -/
theorem replace_in_surroundings {oldName p s : Text} {names : ModelNames} {tokens : List Text}
    {noTimestamps : Bool} {oldFields fields : List Field} {dialect : Dialect}
    {oldOptions options : Options} (oldLine : '\n' ∉ oldName)
    (valid : checkModelName oldName = .ok ())
    (sameTable : (ModelNames.ofName oldName).table = names.table)
    (read : Field.ofTokens tokens noTimestamps = .ok oldFields)
    (inline : ∀ f ∈ oldFields, ∀ text ∈ f.texts, isOneLine text = true ∧ '(' ∉ text)
    (before : p = [] ∨ ∃ q, p = q ++ ['\n']) (after : s = [] ∨ ∃ t, s = '\n' :: t)
    (noHeader : ∀ a b, p = a ++ b → beginsLine (charBefore none a) = true →
      afterTableHeader? names.table b = none)
    (noEnum : dialect = .postgresql → ∀ f ∈ oldFields, f.isEnum = true → ∀ a b, p = a ++ b →
      beginsLine (charBefore none a) = true →
        ¬ ("export const " ++ enumName (ModelNames.ofName oldName) f : Text) <+: b) :
    (¬ LosesExport dialect oldFields p s →
      replace (p ++ (definitions (ModelNames.ofName oldName) oldFields dialect oldOptions ++ s))
          names fields dialect options =
        .ok (mergeImports (p ++ (definitions names fields dialect options ++ s))
          (requiredImports fields dialect options) dialect)) ∧
    (LosesExport dialect oldFields p s → ∀ p' s', dropAround "mysqlEnum" p s = (p', s') →
      (p' ++ s').length < (p ++ s).length ∧
      replace (p ++ (definitions (ModelNames.ofName oldName) oldFields dialect oldOptions ++ s))
          names fields dialect options =
        .ok (mergeImports (replaceBlock (p' ++ (tableExport (ModelNames.ofName oldName) oldFields
            dialect oldOptions ++ s')) names.table (definitions names fields dialect options))
          (requiredImports fields dialect options) dialect)) := by
  have proper := properModel_ofTokens oldLine valid read inline
  have begins : beginsLine (charBefore none p) = true := beginsLine_charBefore_none.2 before
  have ends : atLineEnd s = true := by
    rcases after with rfl | ⟨t, rfl⟩ <;> rfl
  have freeTable : Free (headerAt? names.table) p := by
    refine free_of_lines (fun before u inside => by simp [headerAt?, inside]) ?_
    intro a b cut start
    rw [headerAt?, if_pos start]
    exact noHeader a b cut start
  have freeEnums : ∀ f ∈ exportedEnums oldFields dialect,
      Free (afterEnumExport? (enumName (ModelNames.ofName oldName) f)) p := by
    intro f member
    obtain ⟨isPostgresql, given, isEnum⟩ := of_mem_exportedEnums member
    refine free_of_lines (fun before u inside => by simp [afterEnumExport?, inside]) ?_
    intro a b cut start
    rw [Option.eq_none_iff_forall_ne_some]
    intro rest found
    obtain ⟨-, e, tail, rfl, -⟩ := afterEnumExport?_eq_some_iff.1 found
    refine noEnum isPostgresql f given isEnum a _ cut start ?_
    rw [e.text_append, ← List.append_assoc]
    exact List.prefix_append _ _
  refine ⟨fun kept => ?_, fun loses p' s' dropped => ?_⟩
  · exact replace_definitions_of_remaining fields proper sameTable dialect oldOptions options begins
      freeTable freeEnums ends (remaining_of_not_losesExport kept)
  · have shorter := length_dropAround loses.2.2
    rw [dropped] at shorter
    have left : remaining dialect oldFields p s = (p', s') :=
      (remaining_of_losesExport loses).trans dropped
    refine ⟨shorter, (replace_definitions proper sameTable dialect oldOptions options begins
      freeTable freeEnums ends).trans ?_⟩
    rw [left]

/-- The field `status` with the values `a` and `b`. -/
def statusField : Field :=
  { name := "status", kind := .enum, isEnum := true, choices := some ["a", "b"] }

theorem replace_after_comment :
    replace ("// models\n" ++ (definitions (ModelNames.ofName "post") [statusField] .postgresql {}
        ++ "\n")) (ModelNames.ofName "posts") [] .postgresql {} =
      .ok (mergeImports ("// models\n" ++ (definitions (ModelNames.ofName "posts") [] .postgresql {}
        ++ "\n")) (requiredImports [] .postgresql {}) .postgresql) := by
  have read : Field.ofTokens ["status:enum:a,b"] false = .ok [statusField] := by decide +kernel
  refine (replace_in_surroundings (by decide : '\n' ∉ ("post" : Text)) (by decide +kernel)
    (by decide +kernel) read (by decide +kernel) (.inr ⟨"// models", rfl⟩) (.inr ⟨[], rfl⟩)
    (forall_cut_iff.2 (by decide +kernel)) ?_).1 (fun loses => by cases loses.1)
  intro _ f member _
  obtain rfl := List.mem_singleton.1 member
  exact forall_cut_iff.2 (by decide +kernel)

/-- The export of an enum `mysqlEnum` in front of a model with an enum is lost with the model's old
    definitions. -/
theorem replace_loses_mysqlEnum :
    checkModelName "post" = .ok () ∧ Field.ofTokens ["status:enum:a,b"] false = .ok [statusField] ∧
      replace ("export const mysqlEnum = pgEnum(\"x\", []);\n" ++
          (definitions (ModelNames.ofName "post") [statusField] .mysql {} ++ "\n"))
          (ModelNames.ofName "post") [] .mysql {} ≠
        .ok (mergeImports ("export const mysqlEnum = pgEnum(\"x\", []);\n" ++
          (definitions (ModelNames.ofName "post") [] .mysql {} ++ "\n"))
          (requiredImports [] .mysql {}) .mysql) := by
  decide +kernel

end Schema

end Groundwork
