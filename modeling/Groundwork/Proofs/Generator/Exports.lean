import Groundwork.Proofs.Generator.History
import Groundwork.Proofs.Generator.SchemaFile
import Groundwork.Proofs.Schema.Ledger

/-!
# Exports of a generated schema

Models are written to a project without a schema file, in any number of calls that succeed, some of
them perhaps dry runs. The schema file is then a tidy sheet with the models of the calls that wrote,
each in the place of its table (`Succeeds.prints`). So no name is exported twice, as long as models
with different tables name their enums apart (`Succeeds.schema_exportsApart`).
-/

namespace Groundwork

open Schema Text

/-- A call of `Generator.model`, perhaps as a dry run. -/
structure SchemaCall extends ModelCall where
  dryRun : Bool := false

namespace SchemaCall

/-- What the call runs with in a project. -/
def generator (call : SchemaCall) (settings : Settings) : Generator :=
  ⟨settings, { call.toModelCall.options with dryRun := call.dryRun }⟩

/-- The result of the call in a project, and the session after it. -/
def run (call : SchemaCall) (settings : Settings) (s : Session) : Except Failure Unit × Session :=
  ((call.generator settings).model call.name call.tokens).on s

/-- The name and the tokens stand on one line. -/
structure OneLine (call : SchemaCall) : Prop where
  name : isOneLine call.name = true
  tokens : ∀ token ∈ call.tokens, isOneLine token = true

/-- The catalogue after a call that succeeded: it declares the call's model, unless the call was a
    dry run. -/
def enter (call : SchemaCall) (catalogue : Catalogue) : Catalogue :=
  match call.model with
  | .error _ => catalogue
  | .ok m => if call.dryRun then catalogue else catalogue.put m

theorem OneLine.accepted {call : SchemaCall} (oneLine : call.OneLine) {m : Model}
    (valid : call.model = .ok m) : AcceptedModel m.names m.fields := by
  obtain ⟨checked, fields, read, rfl⟩ := ModelCall.model_eq_ok_iff.1 valid
  exact {
    named := ⟨call.name, rfl, (isOneLine_iff.1 oneLine.name).1, checked⟩
    read := ⟨call.tokens, call.noTimestamps, read⟩
    oneLine := Field.isOneLine_texts read oneLine.tokens }

end SchemaCall

/-- What the schema file declares after calls that succeeded, one after the other. -/
def declaredBy (calls : List SchemaCall) : Catalogue :=
  calls.foldl (fun catalogue call => call.enter catalogue) {}

/-- Calls that all succeed, one after the other, from a session to another one. -/
inductive Succeeds (settings : Settings) (start : Session) : Session → List SchemaCall → Prop
  | start : Succeeds settings start start []
  | call {s : Session} {calls : List SchemaCall} {call : SchemaCall} :
    Succeeds settings start s calls → (call.run settings s).1 = .ok () →
      Succeeds settings start (call.run settings s).2 (calls ++ [call])

/-- The schema file is a tidy sheet with the models of the catalogue. Without models there is no
    file. -/
def Prints (settings : Settings) (disk : Disk) (catalogue : Catalogue) : Prop :=
  (catalogue.models = [] ∧ disk.has settings.schemaFile = false) ∨
  ∃ sheet : Sheet, sheet.Tidy settings.dialect ∧ catalogue.models = sheet.models ∧
    disk.read settings.schemaFile = .ok (sheet.text settings.dialect)

variable {settings : Settings} {s start : Session} {call : SchemaCall} {calls : List SchemaCall}
  {catalogue : Catalogue} {m : Model}

/-- Merging a model into the text of a tidy sheet gives the text of the sheet with the model. -/
theorem exists_merged {sheet : Sheet} (tidy : sheet.Tidy settings.dialect)
    (accepted : AcceptedModel m.names m.fields) {text : Text}
    (merged : Generator.mergedSchema ⟨settings, m.options⟩ (sheet.text settings.dialect) m.names
      m.fields = .ok text) :
    ∃ after : Sheet, after.Tidy settings.dialect ∧ after.models = putModel m sheet.models ∧
      text = after.text settings.dialect := by
  unfold Generator.mergedSchema at merged
  cases present : hasTable (sheet.text settings.dialect) m.table with
  | false =>
    obtain ⟨after, tidyAfter, models, appended⟩ := tidy.exists_append accepted present
    rw [show m.names.table = m.table from rfl, present, if_neg (by simp)] at merged
    exact ⟨after, tidyAfter, models, (Except.ok.inj merged).symm.trans appended.symm⟩
  | true =>
    rw [show m.names.table = m.table from rfl, present, if_pos rfl] at merged
    split at merged
    · exact tidy.exists_replace accepted merged
    · cases merged

/-- The schema that is drafted for a model is the text of a tidy sheet with the model put in. -/
theorem Prints.draft {names : ModelNames} {fields : List Field} {options : Options} {name : Text}
    {tokens : List Text} {disk : Disk} {draft : Draft} (prints : Prints settings disk catalogue)
    (accepted : AcceptedModel names fields)
    (drafted : Generator.schemaDraft ⟨settings, options⟩ disk name tokens = .ok draft)
    (named : Generator.named ⟨settings, options⟩ name tokens = .ok (names, fields)) :
    ∃ sheet : Sheet, sheet.Tidy settings.dialect ∧
      (catalogue.put ⟨names, fields, options⟩).models = sheet.models ∧
        draft.content = sheet.text settings.dialect := by
  obtain ⟨otherNames, otherFields, other, content⟩ := Generator.content_of_schemaDraft drafted
  obtain ⟨rfl, rfl⟩ := Prod.mk.inj (Except.ok.inj (named.symm.trans other))
  rcases prints with ⟨none, absent⟩ | ⟨sheet, tidy, declared, stands⟩
  · rw [absent, if_neg (by simp)] at content
    obtain ⟨created, models⟩ := Sheet.tidy_create (m := ⟨names, fields, options⟩) accepted
      settings.dialect
    refine ⟨_, created, ?_, content.trans (Sheet.create_eq_text ⟨names, fields, options⟩ _)⟩
    rw [models, Catalogue.put, none]
    rfl
  · rw [Disk.has_of_read stands, if_pos rfl] at content
    obtain ⟨old, read, merged⟩ := content
    obtain rfl := Except.ok.inj (stands.symm.trans read)
    obtain ⟨after, tidyAfter, models, text⟩ :=
      exists_merged (m := ⟨names, fields, options⟩) tidy accepted merged
    refine ⟨after, tidyAfter, ?_, text⟩
    rw [models, Catalogue.put, declared]

/-- A call that succeeds keeps the schema file a tidy sheet with the models of the catalogue. -/
theorem Prints.run (prints : Prints settings s.disk catalogue) (oneLine : call.OneLine)
    (reads : settings.ReadsBack s.disk) (done : (call.run settings s).1 = .ok ()) :
    settings.ReadsBack (call.run settings s).2.disk ∧
      Prints settings (call.run settings s).2.disk (call.enter catalogue) := by
  obtain ⟨draft, drafted, -⟩ := Generator.put_of_model done
  obtain ⟨names, fields, named, -⟩ := Generator.content_of_schemaDraft drafted
  have valid : call.model = .ok ⟨names, fields, call.toModelCall.options⟩ := by
    obtain ⟨_, checked, rest⟩ := bind_eq_ok_iff.1 named
    obtain ⟨read, given, same⟩ := bind_eq_ok_iff.1 rest
    obtain ⟨rfl, rfl⟩ := Prod.mk.inj (Except.ok.inj same)
    exact ModelCall.model_eq_ok_iff.2 ⟨checked, read, given, rfl⟩
  unfold SchemaCall.enter
  rw [valid]
  dsimp only
  cases dryRun : call.dryRun with
  | true =>
    have same : (call.run settings s).2.disk = s.disk :=
      Generator.disk_of_model_dry (g := call.generator settings) dryRun done
    rw [same]
    exact ⟨reads, prints⟩
  | false =>
    have generator : call.generator settings = ⟨settings, call.toModelCall.options⟩ := by
      unfold SchemaCall.generator
      rw [dryRun]
      rfl
    have wet : (call.generator settings).options.dryRun = false := dryRun
    obtain ⟨sheet, tidy, models, text⟩ := prints.draft (oneLine.accepted valid)
      (generator ▸ drafted) (generator ▸ named)
    have noReturn : '\r' ∉ draft.content := by
      rw [text]
      exact Sheet.not_mem_return_text tidy.toSound settings.dialect
    have back := Generator.read_of_model (g := call.generator settings) reads wet drafted noReturn
      done
    rw [text] at back
    exact ⟨back.1, .inr ⟨sheet, tidy, models, back.2⟩⟩

namespace Succeeds

/-- After all calls the schema file is a tidy sheet with the models that they declared. -/
theorem prints (succeeds : Succeeds settings start s calls)
    (oneLine : ∀ call ∈ calls, call.OneLine) (reads : settings.ReadsBack start.disk)
    (absent : start.disk.has settings.schemaFile = false) :
    settings.ReadsBack s.disk ∧ Prints settings s.disk (declaredBy calls) := by
  induction succeeds with
  | start => exact ⟨reads, .inl ⟨rfl, absent⟩⟩
  | call _ done ih =>
    obtain ⟨readsHere, prints⟩ := ih fun call member => oneLine call (by simp [member])
    rw [declaredBy, List.foldl_concat]
    exact prints.run (oneLine _ (by simp)) readsHere done

/-- Where the schema is written elsewhere, the project stays without a schema file. -/
theorem has_schemaFile (succeeds : Succeeds settings start s calls)
    (apart : ¬ settings.ReadsBack start.disk)
    (absent : start.disk.has settings.schemaFile = false) :
    ¬ settings.ReadsBack s.disk ∧ s.disk.has settings.schemaFile = false := by
  induction succeeds with
  | start => exact ⟨apart, absent⟩
  | call _ done ih =>
    exact Generator.has_of_model (g := SchemaCall.generator _ settings) ih.1 ih.2 done

/-- Calls that all succeed, in a project that begins without a schema file, export no name twice, if
    models with different tables name their enums apart and the singular of none ends in a capital
    vowel with a `y` after it. -/
theorem schema_exportsApart {content : Text} (succeeds : Succeeds settings start s calls)
    (absent : start.disk.has settings.schemaFile = false)
    (oneLine : ∀ call ∈ calls, call.OneLine)
    (apart : (declaredBy calls).EnumsApart settings.dialect)
    (steady : ∀ m ∈ (declaredBy calls).models,
      Naming.endsInCapitalVowelY m.names.singular = false)
    (read : s.disk.read settings.schemaFile = .ok content) : ExportsApart content := by
  have present := Disk.has_of_read read
  by_cases reads : settings.ReadsBack start.disk
  · rcases (succeeds.prints oneLine reads absent).2 with ⟨-, none⟩ | ⟨sheet, tidy, declared, stands⟩
    · rw [none] at present
      cases present
    · obtain rfl := Except.ok.inj (stands.symm.trans read)
      exact tidy.exportsApart declared apart steady
  · rw [(succeeds.has_schemaFile reads absent).2] at present
    cases present

end Succeeds

/-- The session after calls in an empty project. -/
def shopAfter (calls : List SchemaCall) : Session :=
  calls.foldl (fun s call => (call.run shopSettings s).2) { disk := {} }

/-- A user with a role. -/
def userCall : ModelCall := { name := "user", tokens := ["role:enum:admin,guest"] }

/-- Posts and users, and the posts once more. -/
def shopCalls : List SchemaCall := [⟨postCall, false⟩, ⟨userCall, false⟩, ⟨postAgain, false⟩]

theorem shop_exportsApart :
    ∃ content, (shopAfter shopCalls).disk.read shopSettings.schemaFile = .ok content ∧
      ExportsApart content := by
  -- in one evaluation, since each call runs on what the calls before it left
  obtain ⟨first, second, third, stands⟩ :
      (SchemaCall.run ⟨postCall, false⟩ shopSettings (shopAfter [])).1 = .ok () ∧
      (SchemaCall.run ⟨userCall, false⟩ shopSettings (shopAfter [⟨postCall, false⟩])).1 = .ok () ∧
      (SchemaCall.run ⟨postAgain, false⟩ shopSettings
        (shopAfter [⟨postCall, false⟩, ⟨userCall, false⟩])).1 = .ok () ∧
      ((shopAfter shopCalls).disk.read shopSettings.schemaFile).isOk = true := by
    decide +kernel
  have succeeds : Succeeds shopSettings { disk := {} } (shopAfter shopCalls) shopCalls :=
    .call (.call (.call .start first) second) third
  have lines : ∀ call ∈ shopCalls, isOneLine call.name = true ∧
      ∀ token ∈ call.tokens, isOneLine token = true := by decide +kernel
  cases read : (shopAfter shopCalls).disk.read shopSettings.schemaFile with
  | error failure =>
    rw [read] at stands
    cases stands
  | ok content =>
    exact ⟨content, rfl, succeeds.schema_exportsApart (by decide +kernel)
      (fun call member => ⟨(lines call member).1, (lines call member).2⟩)
      (by unfold Catalogue.EnumsApart; decide +kernel) (by decide +kernel) read⟩

/-- Two models of which names and fields run together to one name. -/
def stateCalls : List SchemaCall :=
  [⟨{ name := "post", tokens := ["stateKind:enum:a,b"] }, false⟩,
    ⟨{ name := "postState", tokens := ["kind:enum:a,b"] }, false⟩]

/-- The enums of the two models are exported under one name. -/
theorem states_export_twice :
    ({} : Disk).has shopSettings.schemaFile = false ∧
      Succeeds shopSettings { disk := {} } (shopAfter stateCalls) stateCalls ∧
      (∀ call ∈ stateCalls, call.OneLine) ∧
      ((shopAfter stateCalls).disk.read shopSettings.schemaFile).map
        (fun content => decide (ExportsApart content)) = .ok false := by
  have lines : ∀ call ∈ stateCalls, isOneLine call.name = true ∧
      ∀ token ∈ call.tokens, isOneLine token = true := by decide +kernel
  exact ⟨by decide, .call (.call .start (by decide +kernel)) (by decide +kernel),
    fun call member => ⟨(lines call member).1, (lines call member).2⟩, by decide +kernel⟩

end Groundwork
