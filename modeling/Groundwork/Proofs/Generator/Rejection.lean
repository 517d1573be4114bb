import Groundwork.Generator.Destroy
import Groundwork.Proofs.Generator.Plan

/-!
# Rejected commands

A command that is refused for what it was given, or for what the schema file holds, changes neither
the disk nor the report (`rejected_changes_nothing`). Writing is no transaction: a fault of the disk
may come after the first files, also the one of a path that no disk takes (`fails_after_schema`).
-/

namespace Groundwork

/-- A command of a generator. -/
inductive Task where
  | generate (request : Request)
  | destroy (kind name : Text)
  deriving DecidableEq, Repr

namespace Generator

open Command

variable {g : Generator} {work work' : Work}

/-- The command of a task. -/
def perform (g : Generator) : Task → Command Unit
  | .generate request => g.generate request
  | .destroy kind name => g.destroy kind name

/-! ## Removing a directory -/

/-- Remove a directory if it exists. -/
def remove (g : Generator) (path : Text) : Effect Unit := fun work =>
  let full := g.settings.root.join path
  match work.disk.checkNames full with
  | .error failure => (.error failure, work)
  | .ok _ =>
    if !work.disk.has full then (.ok (), work)
    else if g.options.dryRun then (.ok (), work.recordRemoval path)
    else match work.disk.removeTree full with
      | .error failure => (.error failure, work)
      | .ok disk => (.ok (), Work.recordRemoval { work with disk } path)

theorem removeDirectory_does (g : Generator) (path : Text) :
    (g.removeDirectory path).Does (g.remove path) := by
  intro s
  obtain ⟨missing, missingShows⟩ :=
    Console.action_shows g.options.dryRun "not found" (by decide) (by decide) path
  obtain ⟨removed, removedShows⟩ :=
    Console.action_shows g.options.dryRun "remove" (by decide) (by decide) path
  unfold removeDirectory remove
  dsimp only
  rw [on_bind, on_get]
  dsimp only
  rw [on_bind, on_attempt]
  change _ = match s.disk.checkNames (g.settings.root.join path) with
    | .error failure => _
    | .ok _ => _
  cases s.disk.checkNames (g.settings.root.join path) with
  | error failure => rfl
  | ok _ =>
    dsimp only
    rw [on_bind, on_get]
    dsimp only
    change _ = if !s.disk.has (g.settings.root.join path) then _ else _
    cases s.disk.has (g.settings.root.join path) with
    | false =>
      simp only [Bool.not_false, if_true]
      rw [on_notify missingShows]
      rfl
    | true =>
      simp only [Bool.not_true, Bool.false_eq_true, if_false]
      rw [on_bind, on_notify removedShows]
      cases g.options.dryRun with
      | true => rfl
      | false =>
        simp only [Bool.not_false, if_true, Bool.false_eq_true, if_false]
        rw [on_bind, on_get]
        dsimp only
        rw [on_bind, on_attempt]
        change _ = match s.disk.removeTree (g.settings.root.join path) with
          | .error failure => _
          | .ok disk => _
        cases s.disk.removeTree (g.settings.root.join path) with
        | error failure => rfl
        | ok disk => rfl

/-- What the command that removes a model's files does. -/
def dismantle (g : Generator) (kind name : Text) : Effect Unit := fun work =>
  match Removable.ofWord? kind with
  | none => (.error (.kindUnknown kind), work)
  | some removable =>
    match checkModelName name with
    | .error failure => (.error failure, work)
    | .ok _ => (g.remove (g.directoryOf (.ofName name) removable)).andThen (fun _ =>
        .result ((Console.Notice.schemaKept g.settings.dbFolder).render.map fun _ => ())) work

theorem destroy_does (g : Generator) (kind name : Text) :
    (g.destroy kind name).Does (g.dismantle kind name) := by
  intro s
  unfold destroy dismantle
  cases found : Removable.ofWord? kind with
  | none => rfl
  | some removable =>
    dsimp only
    rw [on_bind, on_attempt]
    cases valid : checkModelName name with
    | error failure => rfl
    | ok _ =>
      have heading : (notify (.heading g.options.dryRun
          ("Destroying ".toList ++ removable.label ++ " ".toList ++
            (ModelNames.ofName name).pascal))).Does (.result (.ok ())) :=
        heading_does g (by cases removable <;> decide) (by cases removable <;> decide) valid
      have removal := (removeDirectory_does g (g.directoryOf (.ofName name) removable)).bind
        fun _ => notify_render_does (.schemaKept g.settings.dbFolder)
      have done := (heading.bind fun _ => removal) s
      rw [Effect.result_andThen] at done
      exact done

/-- Removing a directory fails only for a fault of the disk. -/
theorem isDiskFault_of_remove {path : Text} {failure : Failure}
    (failed : g.remove path work = (.error failure, work')) : failure.isDiskFault = true := by
  unfold remove at failed
  dsimp only at failed
  split at failed
  · next checked =>
    rw [← Except.error.inj (Prod.mk.inj failed).1]
    exact Disk.isDiskFault_of_checkNames checked
  · split at failed
    · cases (Prod.mk.inj failed).1
    · split at failed
      · cases (Prod.mk.inj failed).1
      · split at failed
        · next removed =>
          rw [← Except.error.inj (Prod.mk.inj failed).1]
          exact Disk.isDiskFault_of_removeTree removed
        · cases (Prod.mk.inj failed).1

/-- A removal that fails, other than by a fault of the disk or of the markup in its note, changes
    nothing. -/
theorem dismantle_rejected {kind name : Text} {failure : Failure}
    (failed : g.dismantle kind name work = (.error failure, work'))
    (noDisk : failure.isDiskFault = false) (noMarkup : failure.isMarkupFault = false) :
    work' = work := by
  unfold dismantle at failed
  split at failed
  · exact (Prod.mk.inj failed).2.symm
  · split at failed
    · exact (Prod.mk.inj failed).2.symm
    · unfold Effect.andThen at failed
      split at failed
      · next later removed =>
        -- The directory is gone, and only the note can have failed.
        have render := (Prod.mk.inj failed).1
        cases shows : (Console.Notice.schemaKept g.settings.dbFolder).render with
        | ok text =>
          rw [shows] at render
          cases render
        | error other =>
          rw [shows] at render
          obtain rfl := Except.error.inj render
          rw [Console.schemaKept_markupOnly _ _ shows] at noMarkup
          cases noMarkup
      · next other later unremoved =>
        obtain rfl := Except.error.inj (Prod.mk.inj failed).1
        rw [isDiskFault_of_remove unremoved] at noDisk
        cases noDisk

/-! ## Rejections -/

/-- A command that fails, other than by a fault of the disk or of the markup in a note, leaves the
    disk and the report as they were. -/
theorem rejected_changes_nothing (g : Generator) (task : Task) (s : Session) {failure : Failure}
    (rejected : ((g.perform task).on s).1 = .error failure)
    (noDisk : failure.isDiskFault = false) (noMarkup : failure.isMarkupFault = false) :
    ((g.perform task).on s).2.disk = s.disk ∧ ((g.perform task).on s).2.report = s.report := by
  have unchanged : ((g.perform task).on s).2.work = s.work := by
    cases task with
    | generate request =>
      have follows := generate_follows g request s
      unfold Follows at follows
      cases planned : g.plan s.disk request with
      | error other =>
        rw [planned] at follows
        exact (Prod.mk.inj follows).2
      | ok drafts =>
        rw [planned, show (g.generate request).on s = (g.perform (.generate request)).on s from rfl,
          rejected] at follows
        rw [isDiskFault_of_carryOut follows.symm] at noDisk
        cases noDisk
    | destroy kind name =>
      have does := destroy_does g kind name s
      rw [show (g.destroy kind name).on s = (g.perform (.destroy kind name)).on s from rfl,
        rejected] at does
      exact dismantle_rejected does.symm noDisk noMarkup
  exact ⟨congrArg Work.disk unchanged, congrArg Work.report unchanged⟩

/-- A project whose schema file has a table of posts. -/
def postsDisk : Disk where
  entries := [(["p"], .directory), (["p", "db"], .directory),
    (["p", "db", "schema.ts"], .file (.text (Text.code
      "export const posts = sqliteTable(\"posts\", ⟦⟧);\n")))]

/-- The table of posts is not made twice. -/
theorem second_scaffold_changes_nothing :
    let run := ((Generator.mk { root := ⟨"/", ["p"]⟩ } {}).perform
      (.generate (.scaffold "post" []))).on { disk := postsDisk }
    run.1 = .error (.modelExists "Post") ∧ run.2.disk = postsDisk ∧ run.2.report = {} := by
  have rejected : (((Generator.mk { root := ⟨"/", ["p"]⟩ } {}).perform
      (.generate (.scaffold "post" []))).on { disk := postsDisk }).1 =
        .error (.modelExists "Post") := by
    decide +kernel
  exact ⟨rejected, rejected_changes_nothing _ _ _ rejected rfl rfl⟩

/-- A character that no path may hold is noticed only when the second file is written. -/
theorem fails_after_schema :
    let run := ((Generator.mk { root := ⟨"/", ["p"]⟩, appFolder := "a\x00b" } {}).perform
      (.generate (.resource "post" []))).on { disk := { entries := [(["p"], .directory)] } }
    run.1 = .error .nulInPath ∧ run.2.report.files.map (·.path) = ["db/schema.ts".toList] ∧
      run.2.disk.has ⟨"/", ["p", "db", "schema.ts"]⟩ = true := by
  decide +kernel

end Generator

end Groundwork
