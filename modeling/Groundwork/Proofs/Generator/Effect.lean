import Groundwork.Proofs.Disk.Writing
import Groundwork.Proofs.Generator.Outcome

/-!
# Effects of commands

What a command does besides printing. An effect acts on the disk and the report (`Work`), and
`Command.Does` says that a command has an effect whatever was printed before it. A file to be
written is a `Draft`, and `Generator.put` is the effect of writing it (`writeFile_does`). In a dry
run drafts that are carried out are only recorded (`carryOut_dry`).
-/

namespace Groundwork

/-- The disk and the report of a session. -/
structure Work where
  disk : Disk
  report : Report := {}
  deriving Repr

/-- A session less what was printed. -/
def Session.work (s : Session) : Work := ⟨s.disk, s.report⟩

@[simp] theorem Session.work_disk (s : Session) : s.work.disk = s.disk := rfl

@[simp] theorem Session.work_report (s : Session) : s.work.report = s.report := rfl

/-- Add files to the report. -/
def Work.record (work : Work) (files : List GeneratedFile) : Work :=
  { work with report := { work.report with files := work.report.files ++ files } }

/-- Add a removed directory to the report. -/
def Work.recordRemoval (work : Work) (path : Text) : Work :=
  { work with report := { work.report with removed := work.report.removed ++ [path] } }

theorem Work.record_nil (work : Work) : work.record [] = work := by
  simp [record]

theorem Work.record_record (work : Work) (files others : List GeneratedFile) :
    (work.record files).record others = work.record (files ++ others) := by
  simp [record]

/-- A result, and work that was done up to it. -/
abbrev Effect (α : Type) := Work → Except Failure α × Work

namespace Effect

variable {α β : Type}

/-- A result without work. -/
def result (result : Except Failure α) : Effect α := fun work => (result, work)

/-- Work that goes on after a success. -/
def andThen (first : Effect α) (next : α → Effect β) : Effect β := fun work =>
  match first work with
  | (.ok a, work) => next a work
  | (.error failure, work) => (.error failure, work)

theorem result_andThen (a : α) (next : α → Effect β) : (result (.ok a)).andThen next = next a := rfl

theorem andThen_ok (effect : Effect Unit) : effect.andThen (fun _ => result (.ok ())) = effect := by
  funext work
  unfold andThen
  rcases effect work with ⟨_ | _, _⟩ <;> rfl

end Effect

namespace Command

variable {α β : Type}

/-- The command ends with the result and the work of the effect, whatever was printed. -/
def Does (command : Command α) (effect : Effect α) : Prop :=
  ∀ s, ((command.on s).1, (command.on s).2.work) = effect s.work

theorem Does.bind {first : Command α} {next : α → Command β} {effect : Effect α}
    {later : α → Effect β} (does : first.Does effect) (rest : ∀ a, (next a).Does (later a)) :
    (first >>= next).Does (effect.andThen later) := by
  intro s
  have before := does s
  unfold Effect.andThen
  rw [on_bind, ← before]
  rcases first.on s with ⟨failure | a, s'⟩
  · rfl
  · exact rest a s'

theorem attempt_does (result : Except Failure α) : (attempt result).Does (.result result) := by
  intro s
  rw [on_attempt]
  rfl

theorem pure_does (a : α) : (pure a : Command α).Does (.result (.ok a)) := fun _ => rfl

/-- A notice leaves no trace besides its text. -/
theorem notify_render_does (notice : Console.Notice) :
    (notify notice).Does (.result (notice.render.map fun _ => ())) := by
  intro s
  unfold notify
  rw [on_bind, on_attempt]
  cases notice.render <;> rfl

theorem notify_does {notice : Console.Notice} (shows : ∃ text, notice.render = .ok text) :
    (notify notice).Does (.result (.ok ())) := by
  obtain ⟨text, shows⟩ := shows
  have does := notify_render_does notice
  rwa [shows] at does

end Command

/-! ## Drafts -/

/-- A file to be written. -/
structure Draft where
  /-- The path, relative to the project's directory. -/
  path : Text
  content : Text
  /-- The content was merged with what the file holds. -/
  merged : Bool := false
  deriving DecidableEq, Repr

namespace Generator

open Command Disk

variable {g : Generator} {draft : Draft} {drafts : List Draft} {work work' : Work}

/-- The path of a draft on the disk. -/
def target (g : Generator) (draft : Draft) : Path := g.settings.root.join draft.path

/-- What the report says of a draft that is written to a disk. -/
def entry (g : Generator) (disk : Disk) (draft : Draft) : GeneratedFile :=
  ⟨draft.path, draft.content, g.fileAction disk draft.path draft.merged⟩

/-- Only a file that exists is skipped. -/
theorem has_of_skip {disk : Disk} (skipped : (g.entry disk draft).action = .skip) :
    disk.has (g.target draft) = true := by
  cases absent : disk.has (g.target draft) with
  | true => rfl
  | false =>
    unfold entry fileAction at skipped
    rw [show g.settings.root.join draft.path = g.target draft from rfl, absent] at skipped
    cases skipped

/-- Write a draft, or keep the file that exists. -/
def put (g : Generator) (draft : Draft) : Effect Unit := fun work =>
  match work.disk.checkNames (g.target draft) with
  | .error failure => (.error failure, work)
  | .ok _ =>
    let file := g.entry work.disk draft
    if file.action ≠ .skip && !g.options.dryRun then
      match store work.disk (g.target draft) draft.content with
      | (disk, .error failure) => (.error failure, { work with disk })
      | (disk, .ok _) => (.ok (), Work.record { work with disk } [file])
    else (.ok (), work.record [file])

/-- Write drafts one after the other. -/
def carryOut (g : Generator) : List Draft → Effect Unit
  | [] => .result (.ok ())
  | draft :: drafts => (g.put draft).andThen fun _ => g.carryOut drafts

theorem writeFile_does (g : Generator) (draft : Draft) :
    (g.writeFile draft.path draft.content draft.merged).Does (g.put draft) := by
  intro s
  unfold writeFile put
  dsimp only
  rw [on_bind, on_get]
  dsimp only
  rw [on_bind, on_attempt]
  change _ = match s.disk.checkNames (g.settings.root.join draft.path) with
    | .error failure => _
    | .ok _ => _
  cases s.disk.checkNames (g.settings.root.join draft.path) with
  | error failure => rfl
  | ok _ =>
    obtain ⟨text, shows⟩ := Console.render_action g.options.dryRun
      (g.fileAction s.disk draft.path draft.merged) draft.path
    dsimp only
    rw [on_bind, on_get]
    dsimp only
    rw [on_bind, on_notify shows]
    dsimp only
    by_cases writes : (g.fileAction s.disk draft.path draft.merged ≠ .skip &&
        !g.options.dryRun) = true
    · rw [if_pos writes]
      refine Eq.trans ?_ (if_pos writes).symm
      rw [on_bind, on_get]
      dsimp only
      rw [on_bind, on_setDisk]
      dsimp only
      rw [on_bind, on_attempt]
      change _ = match store s.disk (g.settings.root.join draft.path) draft.content with
        | (disk, .error failure) => _
        | (disk, .ok _) => _
      rcases store s.disk (g.settings.root.join draft.path) draft.content with ⟨disk, failure | _⟩
      · rfl
      · rfl
    · rw [if_neg writes]
      refine Eq.trans ?_ (if_neg writes).symm
      rfl

theorem carryOut_append (g : Generator) (first rest : List Draft) :
    g.carryOut (first ++ rest) = (g.carryOut first).andThen fun _ => g.carryOut rest := by
  funext work
  induction first generalizing work with
  | nil => rfl
  | cons draft first ih =>
    simp only [List.cons_append, carryOut, Effect.andThen]
    rcases g.put draft work with ⟨failure | _, later⟩
    · rfl
    · exact ih later

/-- Writing a draft fails only for a fault of the disk. -/
theorem isDiskFault_of_put {failure : Failure}
    (failed : g.put draft work = (.error failure, work')) : failure.isDiskFault = true := by
  unfold put at failed
  split at failed
  · next checked =>
    rw [← Except.error.inj (Prod.mk.inj failed).1]
    exact isDiskFault_of_checkNames checked
  · dsimp only at failed
    split at failed
    · split at failed
      · next stored =>
        rw [← Except.error.inj (Prod.mk.inj failed).1]
        exact isDiskFault_of_store stored
      · cases (Prod.mk.inj failed).1
    · cases (Prod.mk.inj failed).1

theorem isDiskFault_of_carryOut {failure : Failure}
    (failed : g.carryOut drafts work = (.error failure, work')) : failure.isDiskFault = true := by
  induction drafts generalizing work with
  | nil => cases (Prod.mk.inj failed).1
  | cons draft drafts ih =>
    unfold carryOut Effect.andThen at failed
    split at failed
    · exact ih failed
    · next other =>
      rw [← Except.error.inj (Prod.mk.inj failed).1]
      exact isDiskFault_of_put other

/-! ## Dry runs -/

/-- In a dry run a draft is recorded, given that its path may be asked for. -/
theorem put_dry (dry : g.options.dryRun = true) (draft : Draft) (work : Work) :
    g.put draft work = match work.disk.checkNames (g.target draft) with
      | .error failure => (.error failure, work)
      | .ok _ => (.ok (), work.record [g.entry work.disk draft]) := by
  unfold put
  rw [dry]
  simp

/-- The drafts of which all paths may be asked for, up to the first other one. -/
theorem carryOut_dry (dry : g.options.dryRun = true) (drafts : List Draft) (work : Work) :
    ((∀ draft ∈ drafts, work.disk.checkNames (g.target draft) = .ok ()) ∧
      g.carryOut drafts work = (.ok (), work.record (drafts.map (g.entry work.disk)))) ∨
    ∃ first draft rest failure, drafts = first ++ draft :: rest ∧
      work.disk.checkNames (g.target draft) = .error failure ∧
      g.carryOut drafts work = (.error failure, work.record (first.map (g.entry work.disk))) := by
  induction drafts generalizing work with
  | nil =>
    left
    refine ⟨by simp, ?_⟩
    rw [List.map_nil, Work.record_nil]
    rfl
  | cons draft drafts ih =>
    unfold carryOut Effect.andThen
    rw [put_dry dry]
    cases checked : work.disk.checkNames (g.target draft) with
    | error failure =>
      right
      refine ⟨[], draft, drafts, failure, rfl, checked, ?_⟩
      rw [List.map_nil, Work.record_nil]
    | ok _ =>
      dsimp only
      have rest := ih (work.record [g.entry work.disk draft])
      rcases rest with ⟨names, done⟩ | ⟨first, other, rest, failure, rfl, long, done⟩
      · left
        refine ⟨?_, ?_⟩
        · intro other member
          rcases List.mem_cons.1 member with rfl | member
          · exact checked
          · exact names other member
        · rw [done, Work.record_record]
          rfl
      · right
        refine ⟨draft :: first, other, rest, failure, rfl, long, ?_⟩
        rw [done, Work.record_record]
        rfl

/-! ## Runs that write -/

/-- A draft that was put is recorded; it was stored, or it was kept and the disk is as before. -/
theorem put_wet (wet : g.options.dryRun = false) (done : g.put draft work = (.ok (), work')) :
    work.disk.checkNames (g.target draft) = .ok () ∧
      work'.report = (work.record [g.entry work.disk draft]).report ∧
      if (g.entry work.disk draft).action = .skip then work'.disk = work.disk
      else store work.disk (g.target draft) draft.content = (work'.disk, .ok ()) := by
  unfold put at done
  rw [wet] at done
  split at done
  · cases (Prod.mk.inj done).1
  · next checked =>
    refine ⟨checked, ?_⟩
    dsimp only at done
    by_cases kept : (g.entry work.disk draft).action = .skip
    · rw [if_neg (by simp [kept])] at done
      rw [if_pos kept, ← (Prod.mk.inj done).2]
      exact ⟨rfl, rfl⟩
    · rw [if_pos (by simp [kept])] at done
      rw [if_neg kept]
      split at done
      · cases (Prod.mk.inj done).1
      · next disk _ stored =>
        rw [← (Prod.mk.inj done).2]
        exact ⟨rfl, stored⟩

theorem keeps_of_put (wet : g.options.dryRun = false)
    (done : g.put draft work = (.ok (), work')) : work.disk.Keeps work'.disk := by
  obtain ⟨-, -, effect⟩ := put_wet wet done
  split at effect
  · rw [effect]
    exact .refl _
  · exact keeps_of_store effect

/-- Before a run that wrote all drafts, all their paths could be asked for. -/
theorem checkNames_of_carryOut (wet : g.options.dryRun = false)
    (done : g.carryOut drafts work = (.ok (), work')) :
    ∀ draft ∈ drafts, work.disk.checkNames (g.target draft) = .ok () := by
  induction drafts generalizing work with
  | nil => simp
  | cons draft drafts ih =>
    unfold carryOut Effect.andThen at done
    split at done
    · next later put =>
      intro other member
      rcases List.mem_cons.1 member with rfl | member
      · exact (put_wet wet put).1
      · exact (keeps_of_put wet put).checkNames (ih done other member)
    · cases (Prod.mk.inj done).1

end Generator

end Groundwork
