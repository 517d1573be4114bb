import Groundwork.Generator.Model
import Groundwork.Proofs.Generator.Outcome
import Groundwork.Proofs.Schema.Catalogue
import Groundwork.Proofs.Schema.Surroundings

/-!
# A history of models

Models are added to a project without a schema file, one call after the other. Whatever the calls
are, the schema file declares a catalogue: a map from tables to models in the order in which the
tables came (`model_simulates_catalogue`).
-/

namespace Groundwork

open Schema Text

/-- A call of `Generator.model` that is no dry run. -/
structure ModelCall where
  name : Text
  tokens : List Text := []
  force : Bool := false
  uuid : Bool := false
  noTimestamps : Bool := false

namespace ModelCall

/-- The options of the call. -/
def options (call : ModelCall) : Options :=
  { force := call.force, uuid := call.uuid, noTimestamps := call.noTimestamps }

/-- The model that the call declares, if its name and its tokens are valid. -/
def model (call : ModelCall) : Except Failure Model := do
  checkModelName call.name
  let fields ← Field.ofTokens call.tokens call.noTimestamps
  return ⟨ModelNames.ofName call.name, fields, call.options⟩

/-- What the call runs with in a project. -/
def generator (call : ModelCall) (settings : Settings) : Generator := ⟨settings, call.options⟩

/-- The result of the call in a project, and the session after it. -/
def run (call : ModelCall) (settings : Settings) (s : Session) : Except Failure Unit × Session :=
  ((call.generator settings).model call.name call.tokens).on s

/-- Names and tokens stand on one line, and the values of enums and the targets of references call
    nothing. -/
structure Inline (call : ModelCall) : Prop where
  name : isOneLine call.name = true
  tokens : ∀ token ∈ call.tokens, isOneLine token = true
  fields : ∀ fields, Field.ofTokens call.tokens call.noTimestamps = .ok fields →
    ∀ f ∈ fields, (∀ value ∈ f.choiceList, '(' ∉ value) ∧ '(' ∉ f.target.getD []

/-- The parts of a valid call. -/
theorem model_eq_ok_iff {call : ModelCall} {m : Model} :
    call.model = .ok m ↔ checkModelName call.name = .ok () ∧ ∃ fields,
      Field.ofTokens call.tokens call.noTimestamps = .ok fields ∧
        m = ⟨ModelNames.ofName call.name, fields, call.options⟩ := by
  unfold model
  constructor
  · intro valid
    obtain ⟨_, checked, rest⟩ := bind_eq_ok_iff.1 valid
    obtain ⟨fields, read, same⟩ := bind_eq_ok_iff.1 rest
    exact ⟨checked, fields, read, (Except.ok.inj same).symm⟩
  · rintro ⟨checked, fields, read, rfl⟩
    exact bind_eq_ok_iff.2 ⟨(), checked, bind_eq_ok_iff.2 ⟨fields, read, rfl⟩⟩

/-- A valid call declares a model that can be told from the text around it. -/
theorem Inline.proper {call : ModelCall} (inline : call.Inline) {m : Model}
    (valid : call.model = .ok m) : ProperModel m.names m.fields := by
  obtain ⟨checked, fields, read, rfl⟩ := model_eq_ok_iff.1 valid
  have fit := Field.fitTogether_of_ofTokens read
  have oneLine := Field.isOneLine_texts read inline.tokens
  refine properModel_ofTokens (isOneLine_iff.1 inline.name).1 checked read ?_
  intro f member text among
  refine ⟨oneLine f member text among, ?_⟩
  rcases List.mem_cons.1 among with rfl | among
  · have noFeed := (isOneLine_iff.1 (oneLine f member f.name List.mem_cons_self)).1
    have plain := plain_of_isIdentifier noFeed (fit.wellFormed f member).identifier
    exact plain.not_mem rfl
  · rcases List.mem_cons.1 among with rfl | among
    · exact (inline.fields fields read f member).2
    · exact (inline.fields fields read f member).1 text among

open Command

/-- A call with an invalid name or token is refused. -/
theorem run_invalid {call : ModelCall} {failure : Failure} (invalid : call.model = .error failure)
    (settings : Settings) (s : Session) : call.run settings s = (.error failure, s) := by
  unfold run Generator.model generator
  unfold model at invalid
  rw [on_bind, on_attempt]
  cases checked : checkModelName call.name with
  | error other =>
    rw [checked] at invalid
    rw [Except.error.inj invalid]
  | ok _ =>
    rw [checked] at invalid
    dsimp only
    rw [on_bind, on_attempt]
    cases read : Field.ofTokens call.tokens call.options.noTimestamps with
    | error other =>
      rw [show call.noTimestamps = call.options.noTimestamps from rfl, read] at invalid
      rw [Except.error.inj invalid]
    | ok fields =>
      rw [show call.noTimestamps = call.options.noTimestamps from rfl, read] at invalid
      cases invalid

/-- A valid call writes a new schema file, or the file with the model merged into it, where the
    schema file can be asked for. -/
theorem run_valid {call : ModelCall} {m : Model} (valid : call.model = .ok m) (settings : Settings)
    (s : Session) :
    call.run settings s =
      match s.disk.checkNames settings.schemaFile with
      | .error failure => (.error failure, s)
      | .ok _ =>
        if s.disk.has settings.schemaFile then
          match s.disk.read settings.schemaFile with
          | .error failure => (.error failure, s)
          | .ok content =>
            match (call.generator settings).mergedSchema content m.names m.fields with
            | .error failure => (.error failure, s)
            | .ok text => ((call.generator settings).writeFile
                (call.generator settings).schemaPath text true).on s
        else ((call.generator settings).writeFile (call.generator settings).schemaPath
          (create m.names m.fields settings.dialect m.options) false).on s := by
  obtain ⟨checkedName, fields, read, rfl⟩ := model_eq_ok_iff.1 valid
  have readTokens : Field.ofTokens call.tokens call.options.noTimestamps = .ok fields := read
  unfold run Generator.model generator
  rw [on_bind, on_attempt, checkedName]
  dsimp only
  rw [on_bind, on_attempt, readTokens]
  dsimp only
  rw [on_bind, on_get]
  dsimp only
  rw [on_bind, on_attempt]
  cases s.disk.checkNames settings.schemaFile with
  | error failure => rfl
  | ok _ =>
    cases present : s.disk.has settings.schemaFile with
    | false => rfl
    | true =>
      dsimp only
      rw [if_neg (by simp), if_pos rfl, on_bind, on_attempt]
      cases stands : s.disk.read settings.schemaFile with
      | error failure => rfl
      | ok content =>
        dsimp only
        rw [on_bind, on_attempt]
        cases (Generator.mk settings call.options).mergedSchema content
          (ModelNames.ofName call.name) fields <;> rfl

end ModelCall

namespace Schema.Catalogue

/-- The catalogue after a call. A valid call is refused only for a table that the catalogue has, and
    only where replacing it is not forced. -/
def record (catalogue : Catalogue) (call : ModelCall) : Catalogue :=
  match call.model with
  | .error _ => catalogue
  | .ok m => if catalogue.has m.table && !call.force then catalogue else catalogue.put m

/-- The catalogue after calls, one after the other. -/
def after (calls : List ModelCall) : Catalogue := calls.foldl record {}

theorem after_concat (calls : List ModelCall) (call : ModelCall) :
    after (calls ++ [call]) = (after calls).record call := by
  simp [after]

end Schema.Catalogue

open Schema.Catalogue Command

/-- The schema file declares what the catalogue does. Without models there is no file. -/
def Declares (settings : Settings) (disk : Disk) (catalogue : Catalogue) : Prop :=
  if catalogue.written.isEmpty then disk.has settings.schemaFile = false
  else disk.read settings.schemaFile = .ok (catalogue.text settings.dialect)

/-- The catalogue is empty, or its text can be taken apart again. -/
def Schema.Catalogue.Sound (catalogue : Catalogue) : Prop :=
  (catalogue.written = [] ∧ catalogue.models = []) ∨ catalogue.Proper

theorem Schema.Catalogue.Sound.put {catalogue : Catalogue} (sound : catalogue.Sound) {m : Model}
    (model : ProperModel m.names m.fields) : (catalogue.put m).Proper := by
  rcases sound with ⟨-, models⟩ | proper
  · have single : (catalogue.put m).models = [m] := by simp [Catalogue.put, models, putModel]
    refine ⟨?_, by simp [single], by simp [Catalogue.put], by simp [single]⟩
    intro other member
    rw [single, List.mem_singleton] at member
    rw [member]
    exact model
  · exact proper.put model

variable {settings : Settings} {call : ModelCall} {s : Session} {catalogue : Catalogue}

/-- A model is merged into the text of a catalogue unless the catalogue has its table and replacing
    it is not forced. -/
theorem mergedSchema_text {m : Model} (valid : call.model = .ok m) (proper : catalogue.Proper)
    (apart : catalogue.EnumsApart settings.dialect) (spellings : m.names.Plain) :
    (call.generator settings).mergedSchema (catalogue.text settings.dialect) m.names m.fields =
      if catalogue.has m.table && !call.force then .error (.modelExists m.names.pascal)
      else .ok ((catalogue.put m).text settings.dialect) := by
  have options : m.options = (call.generator settings).options := by
    obtain ⟨-, fields, -, rfl⟩ := ModelCall.model_eq_ok_iff.1 valid
    rfl
  have same : hasTable (catalogue.text settings.dialect) m.names.table = catalogue.has m.table :=
    Bool.eq_iff_iff.2 (hasTable_text_iff proper spellings.table)
  have dialect : (call.generator settings).settings.dialect = settings.dialect := rfl
  have force : (call.generator settings).options.force = call.force := rfl
  unfold Generator.mergedSchema
  rw [same, dialect, force, ← options]
  cases present : catalogue.has m.table with
  | false => simp [append_text proper present]
  | true =>
    cases call.force with
    | false => simp
    | true => simp [replace_text proper apart spellings present]

/-- Writing the schema file meets a fault of the disk, or the file is read back. -/
theorem writeFile_schemaPath {g : Generator} (nonempty : g.settings.dbFolder ≠ [])
    (wet : g.options.dryRun = false) (checked : s.disk.checkNames g.settings.schemaFile = .ok ())
    {merged : Bool} (writes : s.disk.has g.settings.schemaFile = true → merged = true)
    {content : Text} (noReturn : '\r' ∉ content)
    (obeys : ∀ failure, ((g.writeFile g.schemaPath content merged).on s).1 = .error failure →
      failure.isDiskFault = false) :
    ∃ s', (g.writeFile g.schemaPath content merged).on s = (.ok (), s') ∧
      s'.disk.read g.settings.schemaFile = .ok content := by
  rcases Generator.writeFile_on wet g.schemaPath content merged s with
    ⟨failure, s', failed, fault⟩ | ⟨checkedFull, s', done, stored⟩
  · rw [obeys failure (by rw [failed])] at fault
    cases fault
  · refine ⟨s', done, ?_⟩
    have short := Disk.length_of_checkNames checked
    have parts := Generator.parts_schemaFile nonempty
    have found : s.disk.has (g.settings.root.join g.schemaPath) =
        s.disk.has g.settings.schemaFile :=
      congrArg Option.isSome
        (Disk.find?_congr parts.symm short (Disk.length_of_checkNames checkedFull))
    have action : g.fileAction s.disk g.schemaPath merged ≠ .skip := by
      unfold Generator.fileAction
      rw [found]
      cases present : s.disk.has g.settings.schemaFile with
      | false => simp
      | true => simp [writes present]
    rw [if_neg action] at stored
    exact Generator.read_of_store stored parts short noReturn

/-- The first model is written to a new file. -/
theorem ModelCall.run_first {m : Model} (nonempty : settings.dbFolder ≠ []) (inline : call.Inline)
    (valid : call.model = .ok m) (checked : s.disk.checkNames settings.schemaFile = .ok ())
    (absent : s.disk.has settings.schemaFile = false)
    (obeys : ∀ failure, (call.run settings s).1 = .error failure → failure.isDiskFault = false) :
    ∃ s', call.run settings s = (.ok (), s') ∧ s'.disk.read settings.schemaFile =
      .ok (((⟨[], []⟩ : Catalogue).put m).text settings.dialect) := by
  have sound : (⟨[], []⟩ : Catalogue).Sound := .inl ⟨rfl, rfl⟩
  have run := run_valid valid settings s
  rw [checked] at run
  dsimp only at run
  rw [absent, if_neg (by simp), create_eq_text] at run
  rw [run] at obeys ⊢
  exact writeFile_schemaPath (g := call.generator settings) nonempty rfl checked
    (fun present => absurd present (by simp [generator, absent]))
    (not_mem_return_text (sound.put (inline.proper valid))) obeys

/-- Another model is merged into the file, or it is refused and nothing changes. -/
theorem ModelCall.run_later {m : Model} (nonempty : settings.dbFolder ≠ []) (inline : call.Inline)
    (valid : call.model = .ok m) (checked : s.disk.checkNames settings.schemaFile = .ok ())
    (proper : catalogue.Proper) (apart : catalogue.EnumsApart settings.dialect)
    (declares : s.disk.read settings.schemaFile = .ok (catalogue.text settings.dialect))
    (obeys : ∀ failure, (call.run settings s).1 = .error failure → failure.isDiskFault = false) :
    if catalogue.has m.table && !call.force then
      call.run settings s = (.error (.modelExists m.names.pascal), s)
    else ∃ s', call.run settings s = (.ok (), s') ∧
      s'.disk.read settings.schemaFile = .ok ((catalogue.put m).text settings.dialect) := by
  have model := inline.proper valid
  have merged := mergedSchema_text valid proper apart model.spellings
  have run := run_valid valid settings s
  rw [checked] at run
  dsimp only at run
  rw [Disk.has_of_read declares, if_pos rfl, declares] at run
  dsimp only at run
  rw [merged] at run
  split
  · next refused =>
    rw [run, if_pos refused]
  · next allowed =>
    rw [if_neg allowed] at run
    dsimp only at run
    rw [run] at obeys ⊢
    exact writeFile_schemaPath (g := call.generator settings) nonempty rfl checked (fun _ => rfl)
      (not_mem_return_text (proper.put model)) obeys

/-- A call that meets no fault of the disk is refused without a change, or its model stands in the
    schema file afterwards. -/
theorem ModelCall.run_spec (nonempty : settings.dbFolder ≠ []) (inline : call.Inline)
    (sound : catalogue.Sound) (apart : catalogue.EnumsApart settings.dialect)
    (declares : Declares settings s.disk catalogue)
    (obeys : ∀ failure, (call.run settings s).1 = .error failure → failure.isDiskFault = false) :
    match call.model with
    | .error failure => call.run settings s = (.error failure, s)
    | .ok m =>
      if catalogue.has m.table && !call.force then
        call.run settings s = (.error (.modelExists m.names.pascal), s)
      else ∃ s', call.run settings s = (.ok (), s') ∧
        s'.disk.read settings.schemaFile = .ok ((catalogue.put m).text settings.dialect) := by
  cases valid : call.model with
  | error failure => exact run_invalid valid settings s
  | ok m =>
    cases checked : s.disk.checkNames settings.schemaFile with
    | error failure =>
      have refused := obeys failure (by rw [run_valid valid, checked])
      rw [Disk.isDiskFault_of_checkNames checked] at refused
      cases refused
    | ok _ =>
      rcases sound with ⟨written, models⟩ | proper
      · have same : catalogue = ⟨[], []⟩ := by
          cases catalogue
          simp_all
        subst same
        exact run_first nonempty inline valid checked (by simpa [Declares] using declares) obeys
      · have something : catalogue.written.isEmpty = false := by
          simpa using proper.written
        unfold Declares at declares
        rw [something, if_neg (by simp)] at declares
        exact run_later nonempty inline valid checked proper apart declares obeys

/-! ## Runs of calls -/

/-- The session after calls, one after the other. -/
def sessionAfter (settings : Settings) (start : Session) (calls : List ModelCall) : Session :=
  calls.foldl (fun s call => (call.run settings s).2) start

/-- Calls in a project that begins without a schema file. The disk does what it is asked for, and in
    PostgreSQL no two models that are declared at any time share the name of an enum. -/
structure History (settings : Settings) (start : Session) (calls : List ModelCall) : Prop where
  dbFolder : settings.dbFolder ≠ []
  absent : start.disk.has settings.schemaFile = false
  inline : ∀ call ∈ calls, call.Inline
  apart : settings.dialect = .postgresql → ∀ earlier, earlier <+: calls →
    (Catalogue.after earlier).EnumsApart .postgresql
  obeys : ∀ earlier call, earlier ++ [call] <+: calls → ∀ failure,
    (call.run settings (sessionAfter settings start earlier)).1 = .error failure →
      failure.isDiskFault = false

theorem enumsApart_of_not_postgresql {dialect : Dialect} (other : dialect ≠ .postgresql)
    (catalogue : Catalogue) : catalogue.EnumsApart dialect := by
  intro m _ _ _ _ f member
  exact absurd (of_mem_exportedEnums member).1 other

namespace History

variable {start : Session} {calls : List ModelCall}

theorem before (history : History settings start (calls ++ [call])) :
    History settings start calls where
  dbFolder := history.dbFolder
  absent := history.absent
  inline call member := history.inline call (by simp [member])
  apart dialect earlier inside :=
    history.apart dialect earlier (inside.trans (List.prefix_append _ _))
  obeys earlier call inside :=
    history.obeys earlier call (inside.trans (List.prefix_append _ _))

theorem enumsApart (history : History settings start calls) :
    (Catalogue.after calls).EnumsApart settings.dialect := by
  by_cases dialect : settings.dialect = .postgresql
  · rw [dialect]
    exact history.apart dialect calls (List.prefix_refl _)
  · exact enumsApart_of_not_postgresql dialect _

/-- The last call of a history does as `ModelCall.run_spec` says. -/
theorem last (history : History settings start (calls ++ [call]))
    (sound : (Catalogue.after calls).Sound)
    (declares :
      Declares settings (sessionAfter settings start calls).disk (Catalogue.after calls)) :
    match call.model with
    | .error failure => call.run settings (sessionAfter settings start calls) =
        (.error failure, sessionAfter settings start calls)
    | .ok m =>
      if (Catalogue.after calls).has m.table && !call.force then
        call.run settings (sessionAfter settings start calls) =
          (.error (.modelExists m.names.pascal), sessionAfter settings start calls)
      else ∃ s', call.run settings (sessionAfter settings start calls) = (.ok (), s') ∧
        s'.disk.read settings.schemaFile =
          .ok (((Catalogue.after calls).put m).text settings.dialect) :=
  ModelCall.run_spec history.dbFolder (history.inline call (by simp)) sound
    history.before.enumsApart declares (history.obeys calls call (List.prefix_refl _))

/-- After every call the schema file declares the catalogue, and the catalogue stays sound. -/
theorem declares (history : History settings start calls) :
    (Catalogue.after calls).Sound ∧
      Declares settings (sessionAfter settings start calls).disk (Catalogue.after calls) := by
  induction calls using List.reverseRecOn with
  | nil => exact ⟨.inl ⟨rfl, rfl⟩, history.absent⟩
  | append_singleton calls call ih =>
    obtain ⟨sound, declares⟩ := ih history.before
    have spec := history.last sound declares
    rw [Catalogue.after_concat, sessionAfter, List.foldl_concat, ← sessionAfter]
    unfold Catalogue.record
    cases valid : call.model with
    | error failure =>
      rw [valid] at spec
      dsimp only at spec ⊢
      rw [spec]
      exact ⟨sound, declares⟩
    | ok m =>
      rw [valid] at spec
      dsimp only at spec ⊢
      split at spec
      · next refused =>
        rw [if_pos refused, spec]
        exact ⟨sound, declares⟩
      · next allowed =>
        obtain ⟨s', done, read⟩ := spec
        rw [if_neg allowed, done]
        refine ⟨.inr (sound.put ((history.inline call (by simp)).proper valid)), ?_⟩
        unfold Declares
        rw [if_neg (by simp [Catalogue.put])]
        exact read

/-- Calls of `Generator.model` keep a map from tables to models in the schema file: a valid call
    fails exactly if the map has its table and replacing it is not forced, a call that fails changes
    nothing, and after every call the file is the text of the map. -/
theorem model_simulates_catalogue (history : History settings start (calls ++ [call])) :
    let s := sessionAfter settings start calls
    (∀ failure, call.model = .error failure → (call.run settings s).1 = .error failure) ∧
    (∀ m, call.model = .ok m → ((∃ failure, (call.run settings s).1 = .error failure) ↔
      (Catalogue.after calls).has m.table = true ∧ call.force = false)) ∧
    (∀ failure, (call.run settings s).1 = .error failure →
      (call.run settings s).2.disk = s.disk) ∧
    Declares settings (call.run settings s).2.disk (Catalogue.after (calls ++ [call])) := by
  obtain ⟨sound, declares⟩ := history.before.declares
  have spec := history.last sound declares
  have after := history.declares.2
  rw [sessionAfter, List.foldl_concat, ← sessionAfter] at after
  intro s
  refine ⟨?_, ?_, ?_, after⟩
  · intro failure invalid
    rw [invalid] at spec
    exact congrArg Prod.fst spec
  · intro m valid
    rw [valid] at spec
    dsimp only at spec
    split at spec
    · next refused =>
      have both : (Catalogue.after calls).has m.table = true ∧ call.force = false := by
        simpa using refused
      exact ⟨fun _ => both, fun _ => ⟨_, congrArg Prod.fst spec⟩⟩
    · next allowed =>
      obtain ⟨s', done, -⟩ := spec
      refine ⟨?_, fun both => absurd (by simp [both]) allowed⟩
      rintro ⟨failure, failed⟩
      rw [done] at failed
      cases failed
  · intro failure failed
    cases valid : call.model with
    | error other =>
      rw [valid] at spec
      rw [spec]
    | ok m =>
      rw [valid] at spec
      dsimp only at spec
      split at spec
      · rw [spec]
      · obtain ⟨s', done, -⟩ := spec
        rw [done] at failed
        cases failed

end History

/-- A project at the top of its disk. -/
def shopSettings : Settings := { root := ⟨"/", []⟩, dialect := .postgresql }

/-- A post with a status. -/
def postCall : ModelCall := { name := "post", tokens := ["status:enum:draft,live"] }

/-- The post with another status, in its place. -/
def postAgain : ModelCall := { name := "posts", tokens := ["status:enum:open"], force := true }

theorem posts_simulate_catalogue :
    Declares shopSettings
      (postAgain.run shopSettings (sessionAfter shopSettings { disk := {} } [postCall])).2.disk
      (Catalogue.after [postCall, postAgain]) := by
  have earlier {l : List ModelCall} (inside : l <+: [postCall, postAgain]) :
      l = [] ∨ l = [postCall] ∨ l = [postCall, postAgain] := by
    rw [← List.mem_inits] at inside
    simpa using inside
  have inline (call : ModelCall) (fields : List Field) (name : isOneLine call.name = true)
      (tokens : ∀ token ∈ call.tokens, isOneLine token = true)
      (read : Field.ofTokens call.tokens call.noTimestamps = .ok fields)
      (values : ∀ f ∈ fields, (∀ value ∈ f.choiceList, '(' ∉ value) ∧ '(' ∉ f.target.getD []) :
      call.Inline :=
    ⟨name, tokens, fun other same => by rwa [← Except.ok.inj (read.symm.trans same)]⟩
  have history : History shopSettings { disk := {} } ([postCall] ++ [postAgain]) := by
    refine ⟨by decide, by decide +kernel, ?_, ?_, ?_⟩
    · intro call member
      rcases List.mem_pair.1 member with rfl | rfl
      · exact inline postCall
          [{ name := "status", kind := .enum, isEnum := true, choices := some ["draft", "live"] }]
          (by decide) (by decide) (by decide +kernel) (by decide)
      · exact inline postAgain
          [{ name := "status", kind := .enum, isEnum := true, choices := some ["open"] }]
          (by decide) (by decide) (by decide +kernel) (by decide)
    · intro _ l inside
      unfold Catalogue.EnumsApart
      rcases earlier inside with rfl | rfl | rfl <;> decide +kernel
    · intro l call inside failure failed
      have first : (postCall.run shopSettings { disk := {} }).1 = .ok () := by decide +kernel
      have second : (postAgain.run shopSettings
          (sessionAfter shopSettings { disk := {} } [postCall])).1 = .ok () := by decide +kernel
      rcases earlier inside with cut | cut | cut
      · simp at cut
      · obtain ⟨rfl, same⟩ := List.append_inj' (show l ++ [call] = [] ++ [postCall] from cut) rfl
        rw [List.singleton_inj.1 same] at failed
        cases first.symm.trans failed
      · obtain ⟨rfl, same⟩ :=
          List.append_inj' (show l ++ [call] = [postCall] ++ [postAgain] from cut) rfl
        rw [List.singleton_inj.1 same] at failed
        cases second.symm.trans failed
  exact (History.model_simulates_catalogue history).2.2.2

end Groundwork
