import Groundwork.Proofs.Console.Notices
import Groundwork.Proofs.Generator.Effect
import Groundwork.Proofs.Naming.Accepted

/-!
# Plans

Every command that writes source files first decides, from the disk as it finds it, which files it
writes and what they hold. `Generator.plan` is this decision, and `generate_does` says that the
command does what it planned and nothing else: all names, tokens and schema texts that a command
refuses are refused by its plan, before the first file is written.
-/

namespace Groundwork

/-- A command that writes source files, with what it is given. -/
inductive Request where
  | model (name : Text) (tokens : List Text)
  | actions (name : Text)
  | pages (names : ModelNames) (fields : List Field)
  | scaffold (name : Text) (tokens : List Text)
  | resource (name : Text) (tokens : List Text)
  | api (name : Text) (tokens : List Text)
  deriving DecidableEq, Repr

namespace Generator

open Command

variable {g : Generator} {work : Work}

/-- The command of a request. -/
def generate (g : Generator) : Request → Command Unit
  | .model name tokens => g.model name tokens
  | .actions name => g.actions name
  | .pages names fields => g.pages names fields
  | .scaffold name tokens => g.scaffold name tokens
  | .resource name tokens => g.resource name tokens
  | .api name tokens => g.api name tokens

/-! ## Drafts of the commands -/

/-- The names and the fields of a model. -/
def named (g : Generator) (name : Text) (tokens : List Text) :
    Except Failure (ModelNames × List Field) := do
  checkModelName name
  return (.ofName name, ← Field.ofTokens tokens g.options.noTimestamps)

/-- The schema file with a model, as the disk has the file now. -/
def schemaDraft (g : Generator) (disk : Disk) (name : Text) (tokens : List Text) :
    Except Failure Draft := do
  let (names, fields) ← g.named name tokens
  disk.checkNames g.settings.schemaFile
  if !disk.has g.settings.schemaFile then
    return ⟨g.schemaPath, Schema.create names fields g.settings.dialect g.options, false⟩
  else
    let content ← disk.read g.settings.schemaFile
    return ⟨g.schemaPath, ← g.mergedSchema content names fields, true⟩

/-- A file in a directory, both given by their paths, with its contents. -/
def fileIn (directory : Text) (file : Text × Text) : Draft where
  path := directory ++ '/' :: file.1
  content := file.2

/-- The server actions of a model. -/
def actionsFile (g : Generator) (names : ModelNames) : Text × Text :=
  ("actions.ts", Route.actions (g.settings.surroundings g.options) names)

/-- The pages of a model. -/
def pageFiles (g : Generator) (names : ModelNames) (fields : List Field) : List (Text × Text) :=
  [("page.tsx", Page.index names fields), ("new/page.tsx", Page.new names fields g.options),
   ("[id]/page.tsx", Page.detail names fields g.options),
   ("[id]/edit/page.tsx", Page.edit names fields g.options)]

/-- The request handlers of a model. -/
def routeFiles (g : Generator) (names : ModelNames) : List (Text × Text) :=
  let surroundings := g.settings.surroundings g.options
  [("route.ts", Route.collection surroundings names),
   ("[id]/route.ts", Route.member surroundings names)]

/-- The files that a command is to write on a disk. -/
def plan (g : Generator) (disk : Disk) : Request → Except Failure (List Draft)
  | .model name tokens => do return [← g.schemaDraft disk name tokens]
  | .actions name => do
    checkModelName name
    return [fileIn (g.pagePath (.ofName name) []) (g.actionsFile (.ofName name))]
  | .pages names fields =>
    return (g.pageFiles names fields).map (fileIn (g.pagePath names []))
  | .scaffold name tokens => do
    let (names, fields) ← g.named name tokens
    return (← g.schemaDraft disk names.singular tokens) ::
      (g.actionsFile (.ofName names.singular) :: g.pageFiles names fields).map
        (fileIn (g.pagePath names []))
  | .resource name tokens => do
    let (names, _) ← g.named name tokens
    return [← g.schemaDraft disk names.singular tokens,
      fileIn (g.pagePath names []) (g.actionsFile (.ofName names.singular))]
  | .api name tokens => do
    let (names, _) ← g.named name tokens
    return (← g.schemaDraft disk names.singular tokens) ::
      (g.routeFiles names).map (fileIn (g.apiPath names))

/-! ## Commands do what they planned -/

/-- Run on the session, the command is refused as the plan is, or carries the plan out. -/
def Follows (g : Generator) (command : Command Unit) (s : Session)
    (plan : Except Failure (List Draft)) : Prop :=
  ((command.on s).1, (command.on s).2.work) = match plan with
    | .error failure => (.error failure, s.work)
    | .ok drafts => g.carryOut drafts s.work

section Follows

variable {α : Type} {s : Session} {command later : Command Unit} {drafts : List Draft}
  {plan : Except Failure (List Draft)}

/-- A check without work comes before the plan that depends on it. -/
theorem Follows.check {first : Command α} {check : Except Failure α} {next : α → Command Unit}
    {plans : α → Except Failure (List Draft)} (does : first.Does (.result check))
    (follows : ∀ a s', check = .ok a → s'.work = s.work → g.Follows (next a) s' (plans a)) :
    g.Follows (first >>= next) s (check >>= plans) := by
  have outcome := does s
  unfold Follows
  rw [on_bind]
  rcases ran : first.on s with ⟨result, s'⟩
  rw [ran] at outcome
  obtain ⟨rfl, same⟩ : result = check ∧ s'.work = s.work := Prod.mk.inj outcome
  cases result with
  | error failure => exact congrArg (Prod.mk _) same
  | ok a =>
    have later := follows a s' rfl same
    unfold Follows at later
    rw [same] at later
    exact later

theorem Follows.get {next : Session → Command Unit} (follows : g.Follows (next s) s plan) :
    g.Follows (MonadState.get >>= next) s plan := by
  unfold Follows at follows ⊢
  rw [on_bind, on_get]
  exact follows

theorem follows_writeFile (g : Generator) (draft : Draft) (s : Session) :
    g.Follows (g.writeFile draft.path draft.content draft.merged) s (.ok [draft]) := by
  unfold Follows carryOut Effect.andThen
  rw [g.writeFile_does draft s]
  dsimp only
  rcases g.put draft s.work with ⟨_ | _, _⟩ <;> rfl

/-- More drafts are carried out after the plan. -/
theorem Follows.append (follows : g.Follows command s plan)
    (does : plan.isOk = true → later.Does (g.carryOut drafts)) :
    g.Follows (command >>= fun _ => later) s (plan >>= fun first => .ok (first ++ drafts)) := by
  unfold Follows at follows ⊢
  rw [on_bind]
  cases plan with
  | error failure =>
    rcases ran : command.on s with ⟨result, s'⟩
    rw [ran] at follows
    obtain ⟨rfl, same⟩ : result = .error failure ∧ s'.work = s.work := Prod.mk.inj follows
    exact congrArg (Prod.mk _) same
  | ok first =>
    change _ = g.carryOut (first ++ drafts) s.work
    rw [carryOut_append]
    unfold Effect.andThen
    dsimp only at follows
    rw [← follows]
    rcases command.on s with ⟨_ | _, s'⟩
    · rfl
    · exact does rfl s'

/-- What a command can do that follows its plan. -/
theorem Follows.inversion (follows : g.Follows command s plan) :
    (∃ failure, plan = .error failure ∧ (command.on s).1 = .error failure ∧
      (command.on s).2.work = s.work) ∨
    (∃ drafts, plan = .ok drafts ∧
      g.carryOut drafts s.work = ((command.on s).1, (command.on s).2.work)) := by
  unfold Follows at follows
  cases plan with
  | error failure => exact .inl ⟨failure, rfl, Prod.mk.inj follows⟩
  | ok drafts => exact .inr ⟨drafts, rfl, follows.symm⟩

/-- A command that ends well has carried out a plan. -/
theorem Follows.exists_plan (follows : g.Follows command s plan)
    (done : (command.on s).1 = .ok ()) :
    ∃ drafts, plan = .ok drafts ∧
      g.carryOut drafts s.work = (.ok (), (command.on s).2.work) := by
  rcases follows.inversion with ⟨failure, -, failed, -⟩ | ⟨drafts, planned, carried⟩
  · rw [done] at failed
    cases failed
  · rw [done] at carried
    exact ⟨drafts, planned, carried⟩

/-- A failure that is not the disk's is the plan's. -/
theorem Follows.eq_error_iff {failure : Failure} (follows : g.Follows command s plan)
    (noDisk : failure.isDiskFault = false) :
    (command.on s).1 = .error failure ↔ plan = .error failure := by
  rcases follows.inversion with ⟨other, rfl, failed, -⟩ | ⟨drafts, rfl, carried⟩
  · simp [failed]
  · refine ⟨fun failed => ?_, fun absent => by cases absent⟩
    rw [failed] at carried
    rw [isDiskFault_of_carryOut carried] at noDisk
    cases noDisk

end Follows

/-- The schema is written as it was drafted. -/
theorem model_follows (g : Generator) (name : Text) (tokens : List Text) (s : Session) :
    g.Follows (g.model name tokens) s
      (do return [← g.schemaDraft s.disk name tokens]) := by
  unfold model schemaDraft named
  simp only [bind_assoc, pure_bind]
  refine Follows.check (attempt_does _) fun _ checked _ first => ?_
  refine Follows.check (attempt_does _) fun fields read _ second => ?_
  have disk : s.disk = read.disk := congrArg Work.disk (second.trans first).symm
  rw [disk]
  refine Follows.get (Follows.check (attempt_does _) fun _ asked _ _ => ?_)
  cases read.disk.has g.settings.schemaFile with
  | false => exact g.follows_writeFile ⟨g.schemaPath, _, false⟩ asked
  | true =>
    simp only [Bool.not_true, Bool.false_eq_true, if_false, bind_assoc]
    refine Follows.check (attempt_does _) fun content found _ _ => ?_
    refine Follows.check (attempt_does _) fun text merged _ _ => ?_
    exact g.follows_writeFile ⟨g.schemaPath, text, true⟩ merged

theorem valid_of_schemaDraft {disk : Disk} {name : Text} {tokens : List Text} {draft : Draft}
    (drafted : g.schemaDraft disk name tokens = .ok draft) : checkModelName name = .ok () := by
  unfold schemaDraft named at drafted
  cases checked : checkModelName name with
  | error failure =>
    rw [checked] at drafted
    cases drafted
  | ok _ => rfl

/-- More drafts are carried out after the schema's. -/
theorem model_append (g : Generator) {name : Text} {tokens : List Text} {s : Session}
    {later : Command Unit} {drafts : List Draft}
    (does : checkModelName name = .ok () → later.Does (g.carryOut drafts)) :
    g.Follows (g.model name tokens >>= fun _ => later) s
      (do return (← g.schemaDraft s.disk name tokens) :: drafts) := by
  have appended : g.Follows (g.model name tokens >>= fun _ => later) s
      ((do return [← g.schemaDraft s.disk name tokens]) >>= fun first =>
        .ok (first ++ drafts)) := by
    refine (model_follows g name tokens s).append fun planned => ?_
    cases drafted : g.schemaDraft s.disk name tokens with
    | error failure =>
      rw [drafted] at planned
      cases planned
    | ok draft => exact does (valid_of_schemaDraft drafted)
  cases drafted : g.schemaDraft s.disk name tokens with
  | error failure =>
    rw [drafted] at appended
    exact appended
  | ok draft =>
    rw [drafted] at appended
    exact appended

theorem writeFile_carryOut (g : Generator) (draft : Draft) :
    (g.writeFile draft.path draft.content draft.merged).Does (g.carryOut [draft]) := by
  intro s
  unfold carryOut Effect.andThen
  rw [g.writeFile_does draft s]
  rcases g.put draft s.work with ⟨_ | _, _⟩ <;> rfl

theorem carryOut_does {first later : Command Unit} {drafts others : List Draft}
    (does : first.Does (g.carryOut drafts)) (rest : later.Does (g.carryOut others)) :
    (first >>= fun _ => later).Does (g.carryOut (drafts ++ others)) := by
  rw [carryOut_append]
  exact does.bind fun _ => rest

/-- A notice at the end changes nothing. -/
theorem carryOut_notify {command : Command Unit} {drafts : List Draft} {notice : Console.Notice}
    (does : command.Does (g.carryOut drafts)) (shows : ∃ text, notice.render = .ok text) :
    (command >>= fun _ => notify notice).Does (g.carryOut drafts) := by
  have done : (command >>= fun _ => notify notice).Does (g.carryOut (drafts ++ [])) :=
    carryOut_does does (notify_does shows)
  rwa [List.append_nil] at done

theorem writeFile_in (g : Generator) {path directory file : Text} (content : Text)
    (same : path = directory ++ '/' :: file) :
    (g.writeFile path content false).Does (g.carryOut [fileIn directory (file, content)]) := by
  rw [same]
  exact g.writeFile_carryOut (fileIn directory (file, content))

/-- A page is written in the directory of the model's pages. -/
theorem writeFile_page (g : Generator) (names : ModelNames) (content : Text) {parts : List Text}
    {file : Text} (joined : List.intercalate "/" parts = file) (nonempty : parts ≠ []) :
    (g.writeFile (g.pagePath names parts) content false).Does
      (g.carryOut [fileIn (g.pagePath names []) (file, content)]) := by
  obtain ⟨part, parts, rfl⟩ := List.exists_cons_of_ne_nil nonempty
  refine writeFile_in g content ?_
  unfold pagePath
  rw [← joined, List.intercalate_cons_cons, List.intercalate_cons_cons]
  simp

/-- A request handler is written in the directory of the model's handlers. -/
theorem writeFile_route (g : Generator) (names : ModelNames) (content : Text) {ending file : Text}
    (below : ending = '/' :: file) :
    (g.writeFile (g.apiPath names ++ ending) content false).Does
      (g.carryOut [fileIn (g.apiPath names) (file, content)]) := by
  rw [below]
  exact writeFile_in g content rfl

/-- The singular of a name has its pages in the same directory. -/
theorem pagePath_singular (g : Generator) (name : Text) (parts : List Text) :
    g.pagePath (.ofName (ModelNames.ofName name).singular) parts =
      g.pagePath (.ofName name) parts := by
  unfold pagePath
  rw [ModelNames.kebabPlural_singular]

theorem actions_does (g : Generator) {name : Text} (valid : checkModelName name = .ok ()) :
    (g.actions name).Does (g.carryOut
      [fileIn (g.pagePath (.ofName name) []) (g.actionsFile (.ofName name))]) := by
  have written := writeFile_page g (.ofName name)
    (Route.actions (g.settings.surroundings g.options) (.ofName name))
    (show List.intercalate "/" ["actions.ts".toList] = "actions.ts".toList by decide) (by decide)
  unfold actions
  rw [valid]
  exact written

theorem actions_singular_does (g : Generator) {name : Text}
    (valid : checkModelName (ModelNames.ofName name).singular = .ok ()) :
    (g.actions (ModelNames.ofName name).singular).Does (g.carryOut
      [fileIn (g.pagePath (.ofName name) [])
        (g.actionsFile (.ofName (ModelNames.ofName name).singular))]) := by
  have does := actions_does g valid
  rwa [pagePath_singular] at does

theorem pages_does (g : Generator) (names : ModelNames) (fields : List Field) :
    (g.pages names fields).Does
      (g.carryOut ((g.pageFiles names fields).map (fileIn (g.pagePath names [])))) := by
  unfold pages
  exact carryOut_does (writeFile_page g _ _ (by decide) (by decide)) <|
    carryOut_does (writeFile_page g _ _ (by decide) (by decide)) <|
      carryOut_does (writeFile_page g _ _ (by decide) (by decide))
        (writeFile_page g _ _ (by decide) (by decide))

theorem names_of_named {name : Text} {tokens : List Text} {names : ModelNames}
    {fields : List Field} (found : g.named name tokens = .ok (names, fields)) :
    names = .ofName name := by
  obtain ⟨_, -, rest⟩ := bind_eq_ok_iff.1 found
  obtain ⟨_, -, done⟩ := bind_eq_ok_iff.1 rest
  exact (Prod.mk.inj (Except.ok.inj done)).1.symm

/-- The heading of a command on an accepted name shows. -/
theorem heading_does (g : Generator) {doing : Text} (noBracket : '[' ∉ doing)
    (noBackslash : '\\' ∉ doing) {name : Text} (valid : checkModelName name = .ok ()) :
    (notify (.heading g.options.dryRun (doing ++ " " ++ (ModelNames.ofName name).pascal))).Does
      (.result (.ok ())) := by
  have letters (c : Char) (mark : ¬ IsNameChar c) (noSpace : c ≠ ' ') (absent : c ∉ doing) :
      c ∉ doing ++ " ".toList ++ (ModelNames.ofName name).pascal := by
    intro member
    rcases List.mem_append.1 member with front | spelled
    · rcases List.mem_append.1 front with inside | space
      · exact absent inside
      · exact noSpace (List.mem_singleton.1 space)
    · exact mark (ModelNames.pascal_unmarked valid c spelled)
  exact notify_does (Console.heading_shows g.options.dryRun
    (letters '[' (by unfold IsNameChar; decide) (by decide) noBracket)
    (letters '\\' (by unfold IsNameChar; decide) (by decide) noBackslash))

/-- The announcement of a command checks the name and the tokens. -/
theorem announce_does (g : Generator) {doing : Text} (noBracket : '[' ∉ doing)
    (noBackslash : '\\' ∉ doing) (name : Text) (tokens : List Text) :
    (g.announce doing name tokens).Does (.result (g.named name tokens)) := by
  intro s
  unfold announce named
  rw [on_bind, on_attempt]
  cases valid : checkModelName name with
  | error failure => rfl
  | ok _ =>
    dsimp only
    rw [on_bind, on_attempt]
    cases Field.ofTokens tokens g.options.noTimestamps with
    | error failure => rfl
    | ok fields =>
      exact (heading_does g noBracket noBackslash valid).bind
        (fun _ => pure_does (ModelNames.ofName name, fields)) s

/-- The last notice of a command shows. -/
theorem steps_show (second : Text) :
    ∃ text, (Console.Notice.nextSteps [pushStep, second]).render = .ok text :=
  Console.nextSteps_shows (by decide) (by decide) (by decide) second

/-- A command that is announced writes the schema first, and then its other files. -/
theorem announced_follows (g : Generator) (doing : Text) (noBracket : '[' ∉ doing)
    (noBackslash : '\\' ∉ doing) {name : Text} {tokens : List Text} {s : Session}
    {later : ModelNames × List Field → Command Unit}
    {drafts : ModelNames × List Field → List Draft}
    (does : ∀ fields, checkModelName (ModelNames.ofName name).singular = .ok () →
      (later (.ofName name, fields)).Does (g.carryOut (drafts (.ofName name, fields)))) :
    g.Follows
      (do
        let found ← g.announce doing name tokens
        g.model found.1.singular tokens
        later found) s
      (do
        let found ← g.named name tokens
        return (← g.schemaDraft s.disk found.1.singular tokens) :: drafts found) := by
  refine Follows.check (announce_does g noBracket noBackslash name tokens) ?_
  rintro ⟨names, fields⟩ s' found same
  obtain rfl := names_of_named found
  have disk : s.disk = s'.disk := congrArg Work.disk same.symm
  rw [disk]
  exact model_append g (does fields)

/-- Every command is refused as its plan is, or carries its plan out. -/
theorem generate_follows (g : Generator) (request : Request) (s : Session) :
    g.Follows (g.generate request) s (g.plan s.disk request) := by
  cases request with
  | model name tokens => exact model_follows g name tokens s
  | actions name =>
    refine Follows.check (attempt_does _) fun _ s' _ _ => ?_
    exact writeFile_page g (.ofName name) _ (by decide) (by decide) s'
  | pages names fields => exact pages_does g names fields s
  | scaffold name tokens =>
    unfold generate plan scaffold
    dsimp only
    refine announced_follows g "Scaffolding" (by decide) (by decide) fun fields valid => ?_
    exact carryOut_does (actions_singular_does g valid)
      (carryOut_notify (pages_does g _ fields) (steps_show _))
  | resource name tokens =>
    unfold generate plan resource
    dsimp only
    refine announced_follows g "Generating resource" (by decide) (by decide) fun _ valid => ?_
    exact carryOut_notify (actions_singular_does g valid) (steps_show _)
  | api name tokens =>
    unfold generate plan api
    dsimp only
    refine announced_follows g "Generating API" (by decide) (by decide) fun _ _ => ?_
    exact carryOut_does (writeFile_route g _ _ (by decide))
      (carryOut_notify (writeFile_route g _ _ (by decide)) (steps_show _))

end Generator

end Groundwork
