import Groundwork.Proofs.Generator.Placement
import Groundwork.Proofs.Generator.Rejection

/-!
# Dry runs

A dry run changes nothing and tells what the same command would do (`dryRun_foretells`): if the
command succeeds, so does its dry run, with the same report; if the dry run fails, the command fails
in the same way before it changes anything. Since writing is no transaction, a path that is too long
is an exception: the command meets it after it has written the files before it
(`tooLong_after_schema`).

The reports agree because no file has a bearing on the files after it. This needs to be known of
the paths before the run: a path that climbs out of a directory that is made on the way leads to
other files afterwards (`climb_misleads`).
-/

namespace Groundwork

/-- What a dry run and the run that writes have in common, from the same start. The reports agree if
    the places of all files are `known`. -/
structure Foretells (start : Work) (dry wet : Except Failure Unit × Work) (known : Prop) :
    Prop where
  unchanged : dry.2.disk = start.disk
  success : wet.1 = .ok () → dry.1 = .ok () ∧ (known → dry.2.report = wet.2.report)
  failure : ∀ failure, dry.1 = .error failure →
    wet = (.error failure, start) ∨
      (∃ path, failure = .disk .nameTooLong path) ∧ dry.2.report ≠ start.report ∧
        ∃ other, wet.1 = .error other

/-- Both runs are refused in the same way. -/
theorem Foretells.refused (start : Work) (failure : Failure) (known : Prop) :
    Foretells start (.error failure, start) (.error failure, start) known where
  unchanged := rfl
  success := by
    intro done
    cases done
  failure := by
    intro other failed
    rw [Except.error.inj failed]
    exact .inl rfl

namespace Generator

open Command Disk

variable {g : Generator} {work : Work}

/-- The same commands as dry runs. -/
def dry (g : Generator) : Generator := { g with options := { g.options with dryRun := true } }

/-- The same commands as runs that write. -/
def wet (g : Generator) : Generator := { g with options := { g.options with dryRun := false } }

/-- The plan of a command does not depend on what becomes of it. -/
theorem plan_dry (g : Generator) (disk : Disk) (request : Request) :
    g.dry.plan disk request = g.wet.plan disk request := by
  cases request <;> rfl

/-! ## Generating -/

/-- A run that writes the drafts records them as they are judged at its start. -/
def RecordsAtStart (g : Generator) (drafts : List Draft) (work : Work) : Prop :=
  ∀ work', g.wet.carryOut drafts work = (.ok (), work') →
    work'.report = (work.record (drafts.map (g.wet.entry work.disk))).report

theorem recordsAtStart_placed {placed : List (Draft × Location)}
    (wellFormed : work.disk.WellFormed) (fits : g.wet.Placed work.disk placed) :
    g.RecordsAtStart (placed.map Prod.fst) work := by
  intro work' done
  rw [(carryOut_wet rfl wellFormed fits done).1, List.map_map]
  rfl

/-- The disk does not change before the first draft. -/
theorem recordsAtStart_single (draft : Draft) : g.RecordsAtStart [draft] work := by
  intro work' done
  unfold carryOut Effect.andThen at done
  split at done
  · next later put =>
    obtain ⟨-, rfl⟩ := Prod.mk.inj done
    exact (put_wet rfl put).2.1
  · cases (Prod.mk.inj done).1

/-- A dry run of drafts tells what writing them does. -/
theorem carryOut_foretells (g : Generator) (drafts : List Draft) (work : Work) {known : Prop}
    (records : known → g.RecordsAtStart drafts work) :
    Foretells work (g.dry.carryOut drafts work) (g.wet.carryOut drafts work) known := by
  rcases carryOut_dry (g := g.dry) rfl drafts work with
    ⟨-, done⟩ | ⟨first, draft, rest, failure, rfl, long, stopped⟩
  · rw [done]
    refine ⟨rfl, ?_, fun failure failed => by cases failed⟩
    intro wrote
    refine ⟨rfl, fun known => ?_⟩
    rw [records known _ (Prod.ext wrote rfl)]
    rfl
  · have fails : ∃ other, (g.wet.carryOut (first ++ draft :: rest) work).1 = .error other := by
      cases ran : (g.wet.carryOut (first ++ draft :: rest) work).1 with
      | error other => exact ⟨other, rfl⟩
      | ok _ =>
        have checked := checkNames_of_carryOut (g := g.wet) rfl (Prod.ext ran rfl) draft (by simp)
        rw [show g.wet.target draft = g.dry.target draft from rfl, long] at checked
        cases checked
    rw [stopped]
    refine ⟨rfl, ?_, ?_⟩
    · intro wrote
      obtain ⟨other, failed⟩ := fails
      rw [wrote] at failed
      cases failed
    · intro other same
      obtain rfl := Except.error.inj same
      cases first with
      | nil =>
        left
        rw [List.nil_append, carryOut]
        unfold Effect.andThen put
        rw [show g.wet.target draft = g.dry.target draft from rfl, long]
      | cons earlier first =>
        right
        refine ⟨?_, ?_, fails⟩
        · rcases checkNames_eq work.disk (g.dry.target draft) with fine | refused
          · rw [fine] at long
            cases long
          · rw [refused] at long
            exact ⟨_, (Except.error.inj long).symm⟩
        · intro same
          have files := congrArg (fun report : Report => report.files.length) same
          simp [Work.record] at files

/-! ## Destroying -/

/-- A dry run of a removal tells what removing does. -/
theorem remove_foretells (g : Generator) (path : Text) (work : Work) (known : Prop) :
    Foretells work (g.dry.remove path work) (g.wet.remove path work) known := by
  unfold remove
  dsimp only
  rw [show g.dry.settings = g.wet.settings from rfl, show g.dry.options.dryRun = true from rfl,
    show g.wet.options.dryRun = false from rfl]
  cases work.disk.checkNames (g.wet.settings.root.join path) with
  | error failure => exact .refused work failure known
  | ok _ =>
    cases work.disk.has (g.wet.settings.root.join path) with
    | false => exact ⟨rfl, fun _ => ⟨rfl, fun _ => rfl⟩, fun failure failed => by cases failed⟩
    | true =>
      refine ⟨rfl, ?_, fun failure failed => by cases failed⟩
      intro done
      cases removed : work.disk.removeTree (g.wet.settings.root.join path) with
      | error failure =>
        rw [removed] at done
        cases done
      | ok disk => exact ⟨rfl, fun _ => rfl⟩

/-- A dry run of a command that removes files tells what the command does, given that its note
    shows. -/
theorem dismantle_foretells (g : Generator) (kind name : Text) (work : Work)
    (shows : ∃ text, (Console.Notice.schemaKept g.settings.dbFolder).render = .ok text)
    (known : Prop) :
    Foretells work (g.dry.dismantle kind name work) (g.wet.dismantle kind name work) known := by
  obtain ⟨text, shows⟩ := shows
  unfold dismantle
  cases Removable.ofWord? kind with
  | none => exact .refused work _ known
  | some removable =>
    dsimp only
    cases checkModelName name with
    | error failure => exact .refused work failure known
    | ok _ =>
      rw [show g.dry.settings = g.settings from rfl, show g.wet.settings = g.settings from rfl,
        shows]
      dsimp only [Except.map]
      rw [Effect.andThen_ok, Effect.andThen_ok]
      exact remove_foretells g (g.directoryOf (.ofName name) removable) work known

/-! ## All commands -/

/-- The places of the files of a task are known before it runs, as far as it writes more than
    one. -/
def KnowsPlaces (g : Generator) (disk : Disk) : Task → Prop
  | .generate (.model _ _) | .generate (.actions _) | .destroy _ _ => True
  | .generate request => ∃ outer inside, g.Clear disk request outer inside

theorem recordsAtStart_of_knowsPlaces {request : Request} {drafts : List Draft}
    (planned : g.wet.plan work.disk request = .ok drafts) (wellFormed : work.disk.WellFormed)
    (knows : g.KnowsPlaces work.disk (.generate request)) : g.RecordsAtStart drafts work := by
  have placed (clear : ∃ outer inside, g.Clear work.disk request outer inside) :
      g.RecordsAtStart drafts work := by
    obtain ⟨outer, inside, clear⟩ := clear
    have wetClear : g.wet.Clear work.disk request outer inside :=
      ⟨clear.schema, clear.files, clear.apart⟩
    obtain ⟨placed, rfl, fits⟩ := wetClear.placed planned
    exact recordsAtStart_placed wellFormed fits
  cases request with
  | model name tokens =>
    obtain ⟨draft, -, done⟩ := bind_eq_ok_iff.1 planned
    obtain rfl := Except.ok.inj done
    exact recordsAtStart_single draft
  | actions name =>
    obtain ⟨_, -, done⟩ := bind_eq_ok_iff.1 planned
    obtain rfl := Except.ok.inj done
    exact recordsAtStart_single _
  | pages names fields => exact placed knows
  | scaffold name tokens => exact placed knows
  | resource name tokens => exact placed knows
  | api name tokens => exact placed knows

/-- The dry run of every command tells beforehand what the command does. -/
theorem dryRun_foretells (g : Generator) (task : Task) (s : Session)
    (unmarked : '[' ∉ g.settings.dbFolder) :
    Foretells s.work (((g.dry.perform task).on s).1, ((g.dry.perform task).on s).2.work)
      (((g.wet.perform task).on s).1, ((g.wet.perform task).on s).2.work)
      (s.disk.WellFormed ∧ g.KnowsPlaces s.disk task) := by
  cases task with
  | generate request =>
    have dryRun := generate_follows g.dry request s
    have wetRun := generate_follows g.wet request s
    unfold Follows at dryRun wetRun
    unfold perform
    dsimp only
    rw [dryRun, wetRun, plan_dry]
    cases planned : g.wet.plan s.disk request with
    | error failure => exact .refused _ failure _
    | ok drafts =>
      exact carryOut_foretells g drafts s.work fun known =>
        recordsAtStart_of_knowsPlaces planned known.1 known.2
  | destroy kind name =>
    unfold perform
    dsimp only
    rw [destroy_does g.dry kind name s, destroy_does g.wet kind name s]
    exact dismantle_foretells g kind name s.work (Console.schemaKept_shows unmarked) _

/-- A project with the directories of an app and of a schema. -/
def plainDisk : Disk where
  entries := [(["p"], .directory), (["p", "app"], .directory), (["p", "db"], .directory)]

/-- A generator with the usual settings and options. -/
def plainGenerator : Generator := { settings := { root := ⟨"/", ["p"]⟩ } }

/-- The dry run of a new resource reports both of its files. -/
theorem resource_foretold :
    let task : Task := .generate (.resource "post" ["title"])
    ((plainGenerator.dry.perform task).on { disk := plainDisk }).1 = .ok () ∧
      ((plainGenerator.dry.perform task).on { disk := plainDisk }).2.report =
        ((plainGenerator.wet.perform task).on { disk := plainDisk }).2.report := by
  intro task
  have foretold := dryRun_foretells plainGenerator task { disk := plainDisk } (by decide)
  have done : ((plainGenerator.wet.perform task).on { disk := plainDisk }).1 = .ok () := by
    decide +kernel
  have directory : plainGenerator.directory? (.resource "post" ["title"]) = some "app/posts" := by
    decide +kernel
  have known : plainDisk.WellFormed ∧ plainGenerator.KnowsPlaces plainDisk task :=
    ⟨by decide, _, _, .of_plain directory (by decide) (by decide) (by decide)⟩
  have success := foretold.success
  simp only [Session.work_report] at success
  exact ⟨(success done).1, (success done).2 known⟩

/-- A name that is too long is met after the schema file was written. -/
theorem tooLong_after_schema :
    let g : Generator :=
      { settings := { root := ⟨"/", ["p"]⟩, appFolder := List.replicate 256 'a' } }
    let dry := (g.dry.perform (.generate (.resource "post" []))).on { disk := plainDisk }
    let wet := (g.wet.perform (.generate (.resource "post" []))).on { disk := plainDisk }
    dry.1 ≠ .ok () ∧ wet.1 = dry.1 ∧ dry.2.disk.has ⟨"/", ["p", "db", "schema.ts"]⟩ = false ∧
      wet.2.disk.has ⟨"/", ["p", "db", "schema.ts"]⟩ = true := by
  decide +kernel

/-- A path that climbs out of a missing directory leads to files that exist once the directory is
    made. -/
theorem climb_misleads :
    let g : Generator := { settings := { root := ⟨"/", ["p"]⟩, appFolder := "gone/../app" } }
    let disk := (plainDisk.set ["p", "app", "posts"] .directory).set
      ["p", "app", "posts", "page.tsx"] (.file (.text []))
    let dry := (g.dry.perform (.generate (.scaffold "post" []))).on { disk := disk }
    let wet := (g.wet.perform (.generate (.scaffold "post" []))).on { disk := disk }
    wet.1 = .ok () ∧
      dry.2.report.files.map (·.action) = [.create, .create, .create, .create, .create, .create] ∧
      wet.2.report.files.map (·.action) = [.create, .create, .skip, .create, .create, .create] := by
  decide +kernel

end Generator

end Groundwork
