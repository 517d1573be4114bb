import Groundwork.Proofs.Generator.Plan
import Groundwork.Proofs.Naming.Singular

/-!
# Faults of names

A command can fail because the name it is given is unfit for a model. Reading tokens, the disk and
the schema file never fail so (`SparesNames`), so the fault comes from one of two checks: that of
the name itself, and in a command that writes the schema with other files, that of the singular,
which it passes on (`failsOnName_composite_iff`). The two differ exactly on names that lose their
name in the singular (`failsOnName_iff_losesName`).
-/

namespace Groundwork

/-- The failure says that a name is unfit for a model. -/
def Failure.isNameFault : Failure → Bool
  | modelNameMissing | modelNameInvalid _ | modelNameReserved _ => true
  | _ => false

theorem isNameFault_of_checkModelName {name : Text} {failure : Failure}
    (refused : checkModelName name = .error failure) : failure.isNameFault = true := by
  unfold checkModelName at refused
  split_ifs at refused
  all_goals
    obtain rfl := Except.error.inj refused
    rfl

/-- A disk that fails says nothing of names. -/
theorem Failure.not_isNameFault_of_isDiskFault {failure : Failure}
    (fault : failure.isDiskFault = true) : failure.isNameFault = false := by
  cases failure <;> first | rfl | cases fault

/-- The computation does not fail on the name of a model. -/
def SparesNames {α : Type} (x : Except Failure α) : Prop :=
  FailsOnly (fun failure => failure.isNameFault = false) x

/-- Only the part before a rest that spares names can fail on a name. -/
theorem SparesNames.bind_eq_error_iff {α β : Type} {x : Except Failure α}
    {next : α → Except Failure β} (rest : ∀ a, SparesNames (next a)) {failure : Failure}
    (onName : failure.isNameFault = true) :
    (x >>= next) = .error failure ↔ x = .error failure :=
  FailsOnly.bind_eq_error_iff rest (by simp [onName])

/-! ## Tokens -/

theorem sparesNames_complete (f : Field) : SparesNames f.complete :=
  .ite (.error rfl) (.ite (.error rfl) (.ok f))

theorem sparesNames_checkName (token name : Text) : SparesNames (Token.checkName token name) :=
  .ite (.error rfl) (.ite (.error rfl) (.ite (.error rfl) (.ite (.error rfl) (.ok ()))))

theorem sparesNames_checkType (t : Token) : SparesNames t.checkType :=
  .ite (.error rfl) (.ite (.error rfl) (.ite (.error rfl) (.ok ())))

theorem sparesNames_field (t : Token) : SparesNames t.field := by
  unfold Token.field
  refine .ite (sparesNames_complete _) ?_
  split
  · exact .error rfl
  · exact sparesNames_complete _
  · exact sparesNames_complete _
  · exact sparesNames_complete _

theorem sparesNames_ofToken (token : Text) : SparesNames (Field.ofToken token) :=
  ((sparesNames_checkName _ _).bind fun _ => sparesNames_checkType _).bind fun _ =>
    sparesNames_field _

theorem sparesNames_ofTokenAfter (noTimestamps : Bool) (earlier : List Text) (token : Text) :
    SparesNames (Field.ofTokenAfter noTimestamps earlier token) :=
  (sparesNames_ofToken token).bind fun f =>
    .ite (.error rfl) (.ite (.error rfl) (.ok f))

theorem sparesNames_ofTokensAfter (noTimestamps : Bool) (earlier tokens : List Text) :
    SparesNames (Field.ofTokensAfter noTimestamps earlier tokens) := by
  induction tokens generalizing earlier with
  | nil => exact .ok []
  | cons token tokens ih =>
    exact (sparesNames_ofTokenAfter noTimestamps earlier token).bind fun f =>
      (ih (f.name :: earlier)).bind fun fields => .ok (f :: fields)

/-! ## The schema -/

theorem sparesNames_checkNames (disk : Disk) (path : Path) : SparesNames (disk.checkNames path) :=
  fun _ failed => Failure.not_isNameFault_of_isDiskFault (Disk.isDiskFault_of_checkNames failed)

theorem sparesNames_read (disk : Disk) (path : Path) : SparesNames (disk.read path) := by
  unfold Disk.read
  split
  · exact .error rfl
  · split
    · exact .error rfl
    · exact .error rfl
    · exact .error rfl
    · exact .ok _

theorem sparesNames_mergedSchema (g : Generator) (content : Text) (names : ModelNames)
    (fields : List Field) : SparesNames (g.mergedSchema content names fields) := by
  refine .ite (.ite ?_ (.error rfl)) (.ok _)
  refine FailsOnly.bind ?_ fun site => .ok _
  unfold Schema.locate
  split
  · exact .error rfl
  · exact .ok _

namespace Generator

open Command

variable {g : Generator} {name : Text} {tokens : List Text} {failure : Failure} {disk : Disk}
  {s : Session} {request : Request}

theorem named_eq_error_iff (onName : failure.isNameFault = true) :
    g.named name tokens = .error failure ↔ checkModelName name = .error failure :=
  SparesNames.bind_eq_error_iff
    (fun _ => (sparesNames_ofTokensAfter _ _ tokens).bind fun _ => .ok _) onName

/-- The schema is refused for its name exactly where the name is refused. -/
theorem schemaDraft_eq_error_iff (onName : failure.isNameFault = true) :
    g.schemaDraft disk name tokens = .error failure ↔ checkModelName name = .error failure := by
  have later (found : ModelNames × List Field) : SparesNames (do
      disk.checkNames g.settings.schemaFile
      if !disk.has g.settings.schemaFile then
        return (⟨g.schemaPath, Schema.create found.1 found.2 g.settings.dialect g.options, false⟩
          : Draft)
      else
        let content ← disk.read g.settings.schemaFile
        return ⟨g.schemaPath, ← g.mergedSchema content found.1 found.2, true⟩) :=
    (sparesNames_checkNames _ _).bind fun _ => .ite (.ok _) <|
      (sparesNames_read _ _).bind fun content =>
        (sparesNames_mergedSchema g content _ _).bind fun text => .ok _
  rw [schemaDraft, SparesNames.bind_eq_error_iff later onName, named_eq_error_iff onName]

/-- Commands fail on a name only in their plan. -/
theorem generate_eq_error_iff (onName : failure.isNameFault = true) :
    ((g.generate request).on s).1 = .error failure ↔ g.plan s.disk request = .error failure := by
  refine (generate_follows g request s).eq_error_iff ?_
  cases fault : failure.isDiskFault with
  | false => rfl
  | true =>
    rw [Failure.not_isNameFault_of_isDiskFault fault] at onName
    cases onName

/-- The command fails on the name that it is given. -/
def FailsOnName (g : Generator) (request : Request) (s : Session) : Prop :=
  ∃ failure, failure.isNameFault = true ∧ ((g.generate request).on s).1 = .error failure

/-- A name that is not accepted fails on itself. -/
theorem checkModelName_ne_ok_iff : checkModelName name ≠ .ok () ↔
    ∃ failure, failure.isNameFault = true ∧ checkModelName name = .error failure := by
  cases checked : checkModelName name with
  | error failure => simpa using isNameFault_of_checkModelName checked
  | ok _ => simp

theorem failsOnName_model_iff :
    g.FailsOnName (.model name tokens) s ↔ checkModelName name ≠ .ok () := by
  rw [checkModelName_ne_ok_iff]
  refine exists_congr fun failure => and_congr_right fun onName => ?_
  rw [generate_eq_error_iff onName, ← schemaDraft_eq_error_iff onName]
  exact SparesNames.bind_eq_error_iff (fun draft => .ok [draft]) onName

/-- A command that writes the schema under the singular fails on the name where writing the schema
    does, and besides, with a name and tokens that are accepted, where the singular is not. -/
theorem failsOnName_composite_iff (drafts : ModelNames × List Field → Draft → List Draft)
    (composite : g.plan s.disk request = do
      let found ← g.named name tokens
      return drafts found (← g.schemaDraft s.disk found.1.singular tokens)) :
    g.FailsOnName request s ↔ g.FailsOnName (.model name tokens) s ∨
      (g.named name tokens).isOk = true ∧
        checkModelName (ModelNames.ofName name).singular ≠ .ok () := by
  have refused {failure : Failure} (onName : failure.isNameFault = true) :
      ((g.generate request).on s).1 = .error failure ↔ checkModelName name = .error failure ∨
        (g.named name tokens).isOk = true ∧
          checkModelName (ModelNames.ofName name).singular = .error failure := by
    rw [generate_eq_error_iff onName, composite, ← named_eq_error_iff onName]
    cases found : g.named name tokens with
    | error other => simp [bind, Except.bind, Except.isOk, Except.toBool]
    | ok pair =>
      obtain ⟨names, fields⟩ := pair
      obtain rfl := names_of_named found
      have later (draft : Draft) : SparesNames (pure (drafts (.ofName name, fields) draft)) := .ok _
      refine (SparesNames.bind_eq_error_iff later onName).trans ?_
      rw [schemaDraft_eq_error_iff onName]
      simp [Except.isOk, Except.toBool]
  rw [failsOnName_model_iff, checkModelName_ne_ok_iff, checkModelName_ne_ok_iff]
  constructor
  · rintro ⟨failure, onName, failed⟩
    rcases (refused onName).1 failed with first | ⟨found, second⟩
    · exact .inl ⟨failure, onName, first⟩
    · exact .inr ⟨found, failure, onName, second⟩
  · rintro (⟨failure, onName, first⟩ | ⟨found, failure, onName, second⟩)
    · exact ⟨failure, onName, (refused onName).2 (.inl first)⟩
    · exact ⟨failure, onName, (refused onName).2 (.inr ⟨found, second⟩)⟩

/-- An accepted name has an accepted singular unless it loses its name. A command that writes the
    schema with other files fails on a name where writing the schema fails on it, and besides
    exactly on the accepted names that lose their name, once the tokens are accepted. -/
theorem failsOnName_iff_losesName (g : Generator) (s : Session) (name : Text)
    (tokens : List Text) :
    (checkModelName name = .ok () →
      (checkModelName (ModelNames.ofName name).singular = .ok () ↔ ¬ LosesName name)) ∧
    ∀ composite ∈ [Request.scaffold name tokens, .resource name tokens, .api name tokens],
      (g.FailsOnName composite s ↔ g.FailsOnName (.model name tokens) s ∨
        checkModelName name = .ok () ∧ LosesName name ∧
          (Field.ofTokens tokens g.options.noTimestamps).isOk = true) := by
  have lost : (g.named name tokens).isOk = true ∧
      checkModelName (ModelNames.ofName name).singular ≠ .ok () ↔
        checkModelName name = .ok () ∧ LosesName name ∧
          (Field.ofTokens tokens g.options.noTimestamps).isOk = true := by
    cases valid : checkModelName name with
    | error failure =>
      unfold named
      rw [valid]
      simp [bind, Except.bind, Except.isOk, Except.toBool]
    | ok _ =>
      have named : (g.named name tokens).isOk =
          (Field.ofTokens tokens g.options.noTimestamps).isOk := by
        unfold named
        rw [valid]
        cases Field.ofTokens tokens g.options.noTimestamps <;> rfl
      rw [named, Ne, singular_accepted_iff valid, Classical.not_not, and_comm]
      simp
  refine ⟨singular_accepted_iff, fun composite listed => ?_⟩
  rw [← lost]
  simp only [List.mem_cons, List.not_mem_nil, or_false] at listed
  rcases listed with rfl | rfl | rfl
  · exact failsOnName_composite_iff (fun found draft => draft ::
      (g.actionsFile (.ofName found.1.singular) :: g.pageFiles found.1 found.2).map
        (fileIn (g.pagePath found.1 []))) rfl
  · exact failsOnName_composite_iff (fun found draft =>
      [draft, fileIn (g.pagePath found.1 []) (g.actionsFile (.ofName found.1.singular))]) rfl
  · exact failsOnName_composite_iff (fun found draft =>
      draft :: (g.routeFiles found.1).map (fileIn (g.apiPath found.1))) rfl

/-- A project directory without files. -/
def bareDisk : Disk where
  entries := [(["p"], .directory)]

/-- Posts keep their name, so every command takes it that writes their schema. -/
theorem posts_keep_name :
    let g : Generator := { settings := { root := ⟨"/", ["p"]⟩ } }
    let s : Session := { disk := bareDisk }
    checkModelName "posts" = .ok () ∧ ¬ LosesName "posts" ∧
      ∀ composite ∈ [Request.scaffold "posts" [], .resource "posts" [], .api "posts" []],
        (g.FailsOnName composite s ↔ g.FailsOnName (.model "posts" []) s) := by
  intro g s
  obtain ⟨singular, composites⟩ := failsOnName_iff_losesName g s "posts" []
  have valid : checkModelName "posts" = .ok () := by decide
  have kept : ¬ LosesName "posts" := (singular valid).1 (by decide)
  refine ⟨valid, kept, fun composite listed => ?_⟩
  rw [composites composite listed]
  exact or_iff_left fun lost => kept lost.2.1

/-- Tables may be a model, but not one with actions: their singular is a reserved word. -/
theorem tables_fail_with_actions :
    let g : Generator := { settings := { root := ⟨"/", ["p"]⟩ } }
    checkModelName "tables" = .ok () ∧
      checkModelName (ModelNames.ofName "tables").singular = .error (.modelNameReserved "table") ∧
      ((g.model "tables" []).on { disk := bareDisk }).1 = .ok () ∧
      ((g.actions "tables").on { disk := bareDisk }).1 = .ok () ∧
      ∀ composite ∈ [Request.scaffold "tables" [], .resource "tables" [], .api "tables" []],
        ((g.generate composite).on { disk := bareDisk }).1 =
          .error (.modelNameReserved "table") := by
  decide +kernel

end Generator

end Groundwork
