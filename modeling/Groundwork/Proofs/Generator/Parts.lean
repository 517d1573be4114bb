import Groundwork.Proofs.Generator.Plan

/-!
# Commands made of commands

A command that writes a model with more files ends as the commands for the model and for those
files do, one after the other (`composites_are_parts`). It passes the singular of the name down to
them, and a model is the same under its singular (`model_singular`): no text that is generated
depends on the spelling that was given.
-/

namespace Groundwork

namespace ModelNames

open Naming

/-- The singular of a name has the same spellings. -/
theorem ofName_singular (name : Text) :
    ofName (ofName name).singular = { ofName name with name := (ofName name).singular } := by
  unfold ofName
  dsimp only
  rw [singularise_singularise]

end ModelNames

namespace Command

variable {α : Type} {first second : Command α}

/-- From every session the commands end with the same result, the same disk and the same report,
    whatever they print. -/
def EndsAs (first second : Command α) : Prop :=
  ∀ s, (first.on s).1 = (second.on s).1 ∧ (first.on s).2.disk = (second.on s).2.disk ∧
    (first.on s).2.report = (second.on s).2.report

section Does

variable {β : Type} {first : Command β} {next : β → Command α} {effect : Effect α}

/-- A command goes on with a result that was found without work. -/
theorem Does.bind_ok {b : β} (does : first.Does (.result (.ok b))) (rest : (next b).Does effect) :
    (first >>= next).Does effect := by
  intro s
  have found := does s
  rw [on_bind]
  rcases ran : first.on s with ⟨result, s'⟩
  rw [ran] at found
  obtain ⟨rfl, same⟩ : result = .ok b ∧ s'.work = s.work := Prod.mk.inj found
  rw [← same]
  exact rest s'

theorem Does.bind_error {failure : Failure} (does : first.Does (.result (.error failure))) :
    (first >>= next).Does (.result (.error failure)) := by
  intro s
  have found := does s
  rw [on_bind]
  rcases ran : first.on s with ⟨result, s'⟩
  rw [ran] at found
  obtain ⟨rfl, same⟩ : result = .error failure ∧ s'.work = s.work := Prod.mk.inj found
  exact congrArg (Prod.mk _) same

end Does

/-- A notice after a command leaves its effect as it is. -/
theorem Does.notify {first : Command Unit} {effect : Effect Unit} {notice : Console.Notice}
    (does : first.Does effect) (shows : ∃ text, notice.render = .ok text) :
    (first >>= fun _ => notify notice).Does effect := by
  have done := does.bind fun _ => notify_does shows
  rwa [Effect.andThen_ok] at done

/-- Commands with one effect end alike. -/
theorem Does.endsAs {effect : Effect α} (does : first.Does effect) (other : second.Does effect) :
    first.EndsAs second := by
  intro s
  obtain ⟨result, work⟩ := Prod.mk.inj ((does s).trans (other s).symm)
  exact ⟨result, congrArg Work.disk work, congrArg Work.report work⟩

end Command

namespace Generator

open Command

variable {g : Generator} {name : Text} {tokens : List Text}

/-! ## One model under two names -/

theorem model_singular (g : Generator) (tokens : List Text) (valid : checkModelName name = .ok ())
    (accepted : checkModelName (ModelNames.ofName name).singular = .ok ()) :
    g.model (ModelNames.ofName name).singular tokens = g.model name tokens := by
  unfold model
  rw [valid, accepted, ModelNames.ofName_singular]
  rfl

theorem actions_singular (g : Generator) (valid : checkModelName name = .ok ())
    (accepted : checkModelName (ModelNames.ofName name).singular = .ok ()) :
    g.actions (ModelNames.ofName name).singular = g.actions name := by
  unfold actions
  rw [valid, accepted, ModelNames.ofName_singular]
  rfl

/-! ## Effects of commands -/

/-- A command carries out what it plans on the disk as it finds it. -/
def follow (g : Generator) (request : Request) : Effect Unit := fun work =>
  match g.plan work.disk request with
  | .error failure => (.error failure, work)
  | .ok drafts => g.carryOut drafts work

theorem generate_does (g : Generator) (request : Request) :
    (g.generate request).Does (g.follow request) :=
  fun s => generate_follows g request s

/-- A name or tokens that are refused are refused before the disk is looked at. -/
theorem follow_model_refused {failure : Failure}
    (refused : g.named name tokens = .error failure) :
    g.follow (.model name tokens) = .result (.error failure) := by
  funext work
  have draft : g.schemaDraft work.disk name tokens = .error failure := by
    unfold schemaDraft
    rw [refused]
    rfl
  have plan : g.plan work.disk (.model name tokens) = .error failure := by
    change (g.schemaDraft work.disk name tokens >>= fun draft => pure [draft]) = _
    rw [draft]
    rfl
  unfold follow
  rw [plan]
  rfl

/-! ## Composite commands -/

/-- A command that announces a model and then writes it, its actions and more has the effect of
    writing the model and the actions first. -/
theorem announced_does (g : Generator) (doing : Text) (noBracket : '[' ∉ doing)
    (noBackslash : '\\' ∉ doing) (tokens : List Text)
    (accepted : checkModelName (ModelNames.ofName name).singular = .ok ())
    {later : ModelNames × List Field → Command Unit} {effect : Effect Unit}
    (does : ∀ fields, Field.ofTokens tokens g.options.noTimestamps = .ok fields →
      (later (.ofName name, fields)).Does effect) :
    (do
      let found ← g.announce doing name tokens
      g.model found.1.singular tokens
      g.actions found.1.singular
      later found).Does
      ((g.follow (.model name tokens)).andThen fun _ =>
        (g.follow (.actions name)).andThen fun _ => effect) := by
  have announced := announce_does g noBracket noBackslash name tokens
  cases found : g.named name tokens with
  | error failure =>
    -- the announcement fails as the first part does, before either looks at the disk
    rw [found] at announced
    rw [follow_model_refused found]
    exact announced.bind_error
  | ok pair =>
    obtain ⟨_, valid, rest⟩ := bind_eq_ok_iff.1 found
    obtain ⟨fields, read, same⟩ := bind_eq_ok_iff.1 rest
    obtain rfl : (ModelNames.ofName name, fields) = pair := Except.ok.inj same
    rw [found] at announced
    refine announced.bind_ok ?_
    dsimp only
    rw [model_singular g tokens valid accepted, actions_singular g valid accepted]
    exact (generate_does g (.model name tokens)).bind fun _ =>
      (generate_does g (.actions name)).bind fun _ => does fields read

/-- Writing a scaffold ends as writing the model, its actions and its pages, one after the other;
    writing a resource ends as writing the model and its actions. -/
theorem composites_are_parts (g : Generator) {name : Text} (tokens : List Text)
    (accepted : checkModelName (ModelNames.ofName name).singular = .ok ()) :
    (g.scaffold name tokens).EndsAs (do
      g.model name tokens
      g.actions name
      let fields ← attempt (Field.ofTokens tokens g.options.noTimestamps)
      g.pages (.ofName name) fields) ∧
    (g.resource name tokens).EndsAs (do
      g.model name tokens
      g.actions name) := by
  have model := generate_does g (.model name tokens)
  have actions := generate_does g (.actions name)
  constructor
  · refine Does.endsAs (announced_does g "Scaffolding" (by decide) (by decide) tokens accepted
      fun fields read => ?_) (model.bind fun _ => actions.bind fun _ =>
        (attempt_does _).bind fun fields => generate_does g (.pages (.ofName name) fields))
    rw [read]
    exact (generate_does g (.pages (.ofName name) fields)).notify (steps_show _)
  · refine Does.endsAs (announced_does g "Generating resource" (by decide) (by decide) tokens
      accepted fun fields _ => notify_does (steps_show _)) ?_
    have done := model.bind fun _ => actions
    rwa [← Effect.andThen_ok (g.follow (.actions name))] at done

/-- Posts are scaffolded as they are written one after the other, though they come in the plural. -/
theorem posts_are_parts :
    let g : Generator := { settings := { root := ⟨"/", ["p"]⟩ } }
    checkModelName (ModelNames.ofName "posts").singular = .ok () ∧
      (g.scaffold "posts" ["title"]).EndsAs (do
        g.model "posts" ["title"]
        g.actions "posts"
        let fields ← attempt (Field.ofTokens ["title"] g.options.noTimestamps)
        g.pages (.ofName "posts") fields) ∧
      (g.resource "posts" ["title"]).EndsAs (do
        g.model "posts" ["title"]
        g.actions "posts") :=
  ⟨by decide, composites_are_parts _ _ (by decide)⟩

end Generator

end Groundwork
