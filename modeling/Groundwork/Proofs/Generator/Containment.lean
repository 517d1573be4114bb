import Groundwork.Proofs.Generator.Dismantling

/-!
# Staying in the project

The commands put the paths of their files together as texts and join them to the project's directory
only then, and a text that begins with a slash leaves that directory behind. A folder of the
settings that is empty makes such a text. If the folders that a command uses lead downwards, every
path that it records is below the project's directory, and nothing outside that directory changes
(`stays_in_project`); an empty folder leads to the top (`empty_folder_leaves_project`).
-/

namespace Groundwork

namespace Path

variable {root path : Path} {s t : Text}

/-- The path leads down from the root, through one name at least. -/
def Below (root path : Path) : Prop :=
  path.anchor = root.anchor ∧
    ∃ names, names ≠ [] ∧ "..".toList ∉ names ∧ path.parts = root.parts ++ names

/-- The text leads down from where it is taken: it names something there, or the place itself. -/
structure Downward (s : Text) : Prop where
  nonempty : s ≠ []
  relative : s.head? ≠ some '/'
  plain : "..".toList ∉ partsOf s

theorem Downward.anchorOf (downward : Downward s) : anchorOf (s ++ t) = [] := by
  rw [anchorOf_eq_nil_iff, List.head?_append_of_ne_nil _ downward.nonempty]
  exact downward.relative

/-- Names after a folder that leads downwards lead further down. -/
theorem Downward.below (root : Path) (downward : Downward s) (nonempty : partsOf t ≠ [])
    (plain : "..".toList ∉ partsOf t) : Below root (root.join (s ++ '/' :: t)) := by
  unfold join
  rw [downward.anchorOf, partsOf_append]
  refine ⟨rfl, partsOf s ++ partsOf t, by simp [nonempty], ?_, rfl⟩
  rw [List.mem_append, not_or]
  exact ⟨downward.plain, plain⟩

end Path

namespace Disk

variable {before mid after disk disk' : Disk} {root path : Path} {base location : Location}

/-- The location is inside another, not the same. -/
def Inside (base location : Location) : Prop := base <+: location ∧ location ≠ base

/-- Outside of a location, and there, nothing changed. -/
def Confined (base : Location) (before after : Disk) : Prop :=
  ∀ location, ¬ Inside base location → after.lookup? location = before.lookup? location

theorem Confined.refl (base : Location) (disk : Disk) : Confined base disk disk := fun _ _ => rfl

theorem Confined.trans (first : Confined base before mid) (second : Confined base mid after) :
    Confined base before after :=
  fun location outside => (second location outside).trans (first location outside)

/-- The root's path leads to a directory. -/
def Rooted (disk : Disk) (root : Path) (base : Location) : Prop :=
  disk.walk [] root.parts = .ok base ∧ disk.lookup? base = some .directory

theorem Rooted.mono (rooted : before.Rooted root base) (keeps : before.Keeps after) :
    after.Rooted root base := ⟨keeps.walk rooted.1, keeps base rooted.2⟩

/-- A path below the root leads inside the root's directory. -/
theorem Rooted.inside (rooted : disk.Rooted root base) (below : Path.Below root path)
    (leads : disk.walk [] path.parts = .ok location) : Inside base location := by
  obtain ⟨-, names, nonempty, plain, parts⟩ := below
  rw [parts, walk_append, rooted.1] at leads
  rw [eq_append_of_walk plain leads]
  exact ⟨List.prefix_append _ _, by simp [nonempty]⟩

/-- On the way to a path below the root, directories are missing only inside the root's. -/
theorem Rooted.allows (rooted : disk.Rooted root base) (below : Path.Below root path) :
    disk.Allows path.parts (Inside base) := by
  obtain ⟨-, names, -, plain, parts⟩ := below
  intro later keeps first shorter location leads noDirectory
  rw [parts] at shorter
  obtain ⟨rest, split⟩ := shorter
  rcases List.append_eq_append_iff.1 split with ⟨tail, rootParts, -⟩ | ⟨tail, rfl, rfl⟩
  · -- On the way to the root, or there, a directory stands.
    obtain ⟨leadsRoot, stands⟩ := rooted.mono keeps
    rw [rootParts, walk_append, leads] at leadsRoot
    cases tail with
    | nil =>
      obtain rfl := Except.ok.inj leadsRoot
      exact absurd stands noDirectory
    | cons part tail => exact absurd (walk_cons_eq_ok leadsRoot).1 noDirectory
  · rw [walk_append, (rooted.mono keeps).1] at leads
    rw [List.mem_append, not_or] at plain
    obtain rfl := eq_append_of_walk plain.1 leads
    refine ⟨List.prefix_append _ _, ?_⟩
    intro same
    rw [same] at noDirectory
    exact noDirectory (rooted.mono keeps).2

theorem confined_of_grows (grows : before.Grows after (Inside base)) :
    Confined base before after := by
  intro location outside
  rcases grows.entry location with same | ⟨inside, -⟩
  · exact same
  · exact absurd inside outside

theorem confined_set {entry : Entry} (inside : Inside base location) :
    Confined base disk (disk.set location entry) := by
  have nonempty : location ≠ [] := by
    rintro rfl
    exact inside.2 (List.prefix_nil.1 inside.1).symm
  intro other outside
  rw [lookup?_set _ _ _ _ nonempty, if_neg]
  rintro rfl
  exact outside inside

theorem confined_removeBelow (inside : Inside base location) :
    Confined base disk (disk.removeBelow location) := by
  intro other outside
  refine lookup?_removeBelow_outside fun below => outside ⟨inside.1.trans below, ?_⟩
  rintro rfl
  exact inside.2 (below.eq_of_length_le inside.1.length_le)

end Disk

namespace Generator

open Command Disk

variable {g : Generator} {draft : Draft} {drafts : List Draft} {work work' : Work} {base : Location}
  {result : Except Failure Unit}

/-! ## Writing -/

/-- Storing a file below the root changes nothing outside, also if it fails. -/
theorem confined_store {disk disk' : Disk} {root path : Path} {content : Text}
    (rooted : disk.Rooted root base) (below : Path.Below root path)
    (stored : store disk path content = (disk', result)) : Confined base disk disk' := by
  have allows : disk.Allows path.parent.parts (Inside base) := fun later keeps first shorter =>
    rooted.allows below later keeps first (shorter.trans (List.dropLast_prefix _))
  unfold store at stored
  split at stored
  · rw [← (Prod.mk.inj stored).1]
    exact .refl _ _
  · split at stored
    · next made =>
      rw [← (Prod.mk.inj stored).1]
      exact confined_of_grows (grows_of_makeDirectories allows made)
    · next mid _ made =>
      have grows := grows_of_makeDirectories allows made
      split at stored
      · next wrote =>
        obtain ⟨location, found, -, rfl⟩ := write_eq_ok wrote
        rw [← (Prod.mk.inj stored).1]
        exact (confined_of_grows grows).trans (confined_set
          ((rooted.mono grows.keeps).inside below (checkNames_of_resolve found).2))
      · rw [← (Prod.mk.inj stored).1]
        exact confined_of_grows grows

/-- Putting a draft records it or nothing. -/
theorem report_put (done : g.put draft work = (result, work')) :
    ∃ files, work'.report = (work.record files).report ∧
      ∀ file ∈ files, file.path = draft.path := by
  unfold put at done
  dsimp only at done
  have recordsNone : work.report = (work.record []).report := by rw [Work.record_nil]
  split at done
  · exact ⟨[], (Prod.mk.inj done).2 ▸ recordsNone, by simp⟩
  · split at done
    · split at done
      · exact ⟨[], (Prod.mk.inj done).2 ▸ recordsNone, by simp⟩
      · rw [← (Prod.mk.inj done).2]
        exact ⟨[g.entry work.disk draft], rfl, by simp [entry]⟩
    · rw [← (Prod.mk.inj done).2]
      exact ⟨[g.entry work.disk draft], rfl, by simp [entry]⟩

theorem confined_put (rooted : work.disk.Rooted g.settings.root base)
    (below : Path.Below g.settings.root (g.target draft))
    (done : g.put draft work = (result, work')) : Confined base work.disk work'.disk := by
  unfold put at done
  dsimp only at done
  split at done
  · exact (Prod.mk.inj done).2 ▸ .refl _ _
  · split at done
    · rcases stored : store work.disk (g.target draft) draft.content with ⟨disk, failure | _⟩
      · rw [stored] at done
        exact (Prod.mk.inj done).2 ▸ confined_store rooted below stored
      · rw [stored] at done
        exact (Prod.mk.inj done).2 ▸ confined_store rooted below stored
    · exact (Prod.mk.inj done).2 ▸ .refl _ _

/-- Whatever becomes of a draft that is put, all directories stay. -/
theorem keeps_of_put_ok (done : g.put draft work = (.ok (), work')) :
    work.disk.Keeps work'.disk := by
  cases dry : g.options.dryRun with
  | false => exact keeps_of_put dry done
  | true =>
    rw [put_dry dry] at done
    split at done
    · cases (Prod.mk.inj done).1
    · exact (Prod.mk.inj done).2 ▸ .refl _

/-- Drafts that are carried out, as far as they are, are recorded in order. -/
theorem report_carryOut (done : g.carryOut drafts work = (result, work')) :
    ∃ files, work'.report = (work.record files).report ∧
      ∀ file ∈ files, ∃ draft ∈ drafts, file.path = draft.path := by
  induction drafts generalizing work with
  | nil =>
    refine ⟨[], ?_, by simp⟩
    rw [← (Prod.mk.inj done).2, Work.record_nil]
  | cons draft drafts ih =>
    unfold carryOut Effect.andThen at done
    rcases first : g.put draft work with ⟨failure | _, mid⟩
    · rw [first] at done
      obtain ⟨files, report, paths⟩ := report_put first
      refine ⟨files, (Prod.mk.inj done).2 ▸ report, ?_⟩
      exact fun file member => ⟨draft, List.mem_cons_self, paths file member⟩
    · rw [first] at done
      obtain ⟨files, report, paths⟩ := report_put first
      obtain ⟨others, later, otherPaths⟩ := ih done
      refine ⟨files ++ others, ?_, ?_⟩
      · rw [later, ← Work.record_record]
        unfold Work.record at report ⊢
        rw [report]
      · intro file member
        rcases List.mem_append.1 member with here | there
        · exact ⟨draft, List.mem_cons_self, paths file here⟩
        · obtain ⟨other, inside, same⟩ := otherPaths file there
          exact ⟨other, List.mem_cons_of_mem _ inside, same⟩

/-- Carrying out drafts below the root changes nothing outside. -/
theorem confined_carryOut (rooted : work.disk.Rooted g.settings.root base)
    (below : ∀ draft ∈ drafts, Path.Below g.settings.root (g.target draft))
    (done : g.carryOut drafts work = (result, work')) : Confined base work.disk work'.disk := by
  induction drafts generalizing work with
  | nil => exact (Prod.mk.inj done).2 ▸ .refl _ _
  | cons draft drafts ih =>
    have here := below draft List.mem_cons_self
    unfold carryOut Effect.andThen at done
    rcases first : g.put draft work with ⟨failure | _, mid⟩
    · rw [first] at done
      exact (Prod.mk.inj done).2 ▸ confined_put rooted here first
    · rw [first] at done
      exact (confined_put rooted here first).trans
        (ih (rooted.mono (keeps_of_put_ok first))
          (fun other member => below other (List.mem_cons_of_mem _ member)) done)

/-! ## Folders of the settings -/

/-- The command uses the directory of a model. -/
def usesDirectory : Task → Bool
  | .generate (.model _ _) => false
  | .generate _ | .destroy _ _ => true

/-- The folders that a command uses lead downwards, and the pages are those of an accepted name. -/
structure Downward (g : Generator) (task : Task) : Prop where
  schema : ∀ request, task = .generate request → writesSchema request = true →
    Path.Downward g.settings.dbFolder
  files : usesDirectory task = true → Path.Downward g.settings.appFolder
  pages : ∀ names fields, task = .generate (.pages names fields) →
    ∃ name, checkModelName name = .ok () ∧ names = .ofName name

/-- The directory of an accepted name is below the root. -/
theorem below_directoryOf {name : Text} (valid : checkModelName name = .ok ())
    (downward : Path.Downward g.settings.appFolder) (removable : Removable) :
    Path.Below g.settings.root
      (g.settings.root.join (g.directoryOf (.ofName name) removable)) := by
  rw [directoryOf_eq]
  refine downward.below _ ?_ ?_
  · simp [partsOf_innerPath valid]
  · rw [partsOf_innerPath valid, List.mem_append, List.mem_singleton, not_or]
    refine ⟨?_, (kebabPlural_ne_climb valid).symm⟩
    cases removable <;> decide

/-- So are the files in it. -/
theorem below_fileIn {name : Text} (valid : checkModelName name = .ok ())
    (downward : Path.Downward g.settings.appFolder) {removable : Removable} {file : Text × Text}
    (plain : "..".toList ∉ Path.partsOf file.1) :
    Path.Below g.settings.root
      (g.target (fileIn (g.directoryOf (.ofName name) removable) file)) := by
  unfold target fileIn
  dsimp only
  rw [directoryOf_eq, List.append_assoc, List.cons_append]
  refine downward.below _ ?_ ?_
  · simp [Path.partsOf_append, partsOf_innerPath valid]
  · rw [Path.partsOf_append, partsOf_innerPath valid, List.mem_append, List.mem_append,
      List.mem_singleton, not_or, not_or]
    refine ⟨⟨?_, (kebabPlural_ne_climb valid).symm⟩, plain⟩
    cases removable <;> decide

/-- All drafts of a command whose folders lead downwards are below the root. -/
theorem below_of_plan {disk : Disk} {request : Request}
    (downward : g.Downward (.generate request)) (planned : g.plan disk request = .ok drafts) :
    ∀ draft ∈ drafts, Path.Below g.settings.root (g.target draft) := by
  obtain ⟨schema, directory, files, layout⟩ := plan_layout planned
  intro draft member
  rw [layout.drafts] at member
  rcases List.mem_append.1 member with inSchema | inDirectory
  · rcases layout.schema with rfl | ⟨name, tokens, other, rfl, drafted, writes⟩
    · cases inSchema
    · obtain rfl := List.mem_singleton.1 inSchema
      unfold target
      rw [(draft_of_schemaDraft drafted).1]
      exact (downward.schema request rfl writes).below _ (by decide) (by decide)
  · obtain ⟨file, inside, rfl⟩ := List.mem_map.1 inDirectory
    rcases layout.directory with rfl | ⟨-, found⟩
    · cases inside
    · obtain ⟨name, removable, valid, rfl⟩ := directory_of_plan planned found
        fun names fields same => downward.pages names fields (by rw [same])
      refine below_fileIn valid (downward.files ?_)
        (layout.fit.plain _ (List.mem_map_of_mem inside))
      cases request with
      | model name tokens => cases found
      | actions _ => rfl
      | pages _ _ => rfl
      | scaffold _ _ => rfl
      | resource _ _ => rfl
      | api _ _ => rfl

/-! ## Removing -/

/-- Removing a directory records it or nothing. -/
theorem report_remove {path : Text} (done : g.remove path work = (result, work')) :
    ∃ removed, work'.report = { work.report with removed := work.report.removed ++ removed } ∧
      ∀ other ∈ removed, other = path := by
  have recordsNone : work.report =
      { work.report with removed := work.report.removed ++ [] } := by simp
  unfold remove at done
  dsimp only at done
  split at done
  · exact ⟨[], (Prod.mk.inj done).2 ▸ recordsNone, by simp⟩
  · split at done
    · exact ⟨[], (Prod.mk.inj done).2 ▸ recordsNone, by simp⟩
    · split at done
      · rw [← (Prod.mk.inj done).2]
        exact ⟨[path], rfl, by simp⟩
      · split at done
        · exact ⟨[], (Prod.mk.inj done).2 ▸ recordsNone, by simp⟩
        · rw [← (Prod.mk.inj done).2]
          exact ⟨[path], rfl, by simp⟩

/-- The command that removes a model's files records the directory of an accepted name, or
    nothing. -/
theorem report_dismantle {kind name : Text} (done : g.dismantle kind name work = (result, work')) :
    ∃ removed, work'.report = { work.report with removed := work.report.removed ++ removed } ∧
      ∀ path ∈ removed, checkModelName name = .ok () ∧
        ∃ removable, path = g.directoryOf (.ofName name) removable := by
  have recordsNone : work.report =
      { work.report with removed := work.report.removed ++ [] } := by simp
  unfold dismantle at done
  split at done
  · exact ⟨[], (Prod.mk.inj done).2 ▸ recordsNone, by simp⟩
  · next removable _ =>
    split at done
    · exact ⟨[], (Prod.mk.inj done).2 ▸ recordsNone, by simp⟩
    · next valid =>
      rcases ran : g.remove (g.directoryOf (.ofName name) removable) work with ⟨removal, later⟩
      obtain ⟨removed, report, same⟩ := report_remove ran
      have last : work' = later := by
        unfold Effect.andThen at done
        rw [ran] at done
        cases removal <;> exact (Prod.mk.inj done).2.symm
      exact ⟨removed, last ▸ report, fun path member => ⟨valid, removable, same path member⟩⟩

/-! ## All commands -/

/-- What a command adds to the report leads below the root. -/
structure Stays (root : Path) (before after : Report) : Prop where
  files : ∃ files, after.files = before.files ++ files ∧
    ∀ file ∈ files, Path.Below root (root.join file.path)
  removed : ∃ removed, after.removed = before.removed ++ removed ∧
    ∀ path ∈ removed, Path.Below root (root.join path)

/-- If the folders that a command uses lead downwards, all paths that it records are below the
    project's directory, and if that exists, nothing changes but what is inside it, whether the
    command succeeds or fails. -/
theorem stays_in_project (g : Generator) (task : Task) (s : Session)
    (downward : g.Downward task) :
    Stays g.settings.root s.report ((g.perform task).on s).2.report ∧
      ∀ base, s.disk.Rooted g.settings.root base →
        Confined base s.disk ((g.perform task).on s).2.disk := by
  cases task with
  | generate request =>
    have follows := generate_follows g request s
    unfold Follows at follows
    change (_, ((g.perform (.generate request)).on s).2.work) = _ at follows
    cases planned : g.plan s.disk request with
    | error failure =>
      rw [planned] at follows
      have same := (Prod.mk.inj follows).2
      rw [show ((g.perform (.generate request)).on s).2.disk = s.disk from
          congrArg Work.disk same,
        show ((g.perform (.generate request)).on s).2.report = s.report from
          congrArg Work.report same]
      exact ⟨⟨⟨[], by simp, by simp⟩, ⟨[], by simp, by simp⟩⟩, fun base _ => .refl _ _⟩
    | ok drafts =>
      rw [planned] at follows
      have below := below_of_plan downward planned
      obtain ⟨files, report, paths⟩ := report_carryOut follows.symm
      refine ⟨⟨⟨files, congrArg Report.files report, ?_⟩,
        ⟨[], (congrArg Report.removed report).trans (List.append_nil _).symm, by simp⟩⟩,
        fun base rooted => confined_carryOut rooted below follows.symm⟩
      intro file member
      obtain ⟨draft, inside, same⟩ := paths file member
      rw [same]
      exact below draft inside
  | destroy kind name =>
    obtain ⟨removed, report, paths⟩ := report_dismantle (destroy_does g kind name s).symm
    have folder := downward.files rfl
    refine ⟨⟨⟨[], (congrArg Report.files report).trans (List.append_nil _).symm, by simp⟩,
      ⟨removed, congrArg Report.removed report, ?_⟩⟩, ?_⟩
    · intro path member
      obtain ⟨valid, removable, rfl⟩ := paths path member
      exact below_directoryOf valid folder removable
    · intro base rooted
      change Confined base s.disk ((g.destroy kind name).on s).2.disk
      rcases destroy_disk g kind name s with ⟨location, removes, gone⟩ | ⟨-, same⟩
      · obtain ⟨-, valid, removable, -, found, -⟩ := removes
        rw [gone]
        exact confined_removeBelow (rooted.inside (below_directoryOf valid folder removable)
          (checkNames_of_resolve found).2)
      · rw [same]
        exact .refl _ _

/-- Settings whose folders are written with a detour. -/
def detour : Generator where
  settings := { root := ⟨"/", ["p"]⟩, appFolder := "./src//app", dbFolder := "." }

/-- Such folders lead downwards too. -/
theorem api_stays_in_project :
    let run := (detour.perform (.generate (.api "category" []))).on { disk := postsDisk }
    run.2.report.files.map (·.path) = ["./schema.ts".toList,
        "./src//app/api/categories/route.ts".toList,
        "./src//app/api/categories/[id]/route.ts".toList] ∧
      Stays detour.settings.root {} run.2.report ∧ Confined ["p".toList] postsDisk run.2.disk := by
  have downward : detour.Downward (.generate (.api "category" [])) :=
    ⟨fun _ _ _ => ⟨by decide, by decide, by decide⟩, fun _ => ⟨by decide, by decide, by decide⟩,
      fun _ _ same => by cases same⟩
  obtain ⟨stays, confined⟩ := stays_in_project detour _ { disk := postsDisk } downward
  have rooted : postsDisk.Rooted detour.settings.root ["p".toList] := ⟨by decide +kernel, by decide⟩
  exact ⟨by decide +kernel, stays, confined _ rooted⟩

/-- An empty folder is neither absolute nor does it climb, but the path of a file in it begins with
    a slash, so the file is written at the top. -/
theorem empty_folder_leaves_project :
    let g : Generator := { settings := { root := ⟨"/", ["p"]⟩, appFolder := [] } }
    let run := (g.perform (.generate (.actions "post"))).on { disk := postsDisk }
    g.settings.appFolder.head? ≠ some '/' ∧ "..".toList ∉ Path.partsOf g.settings.appFolder ∧
      run.1 = .ok () ∧ run.2.report.files.map (·.path) = ["/posts/actions.ts".toList] ∧
      ¬ Path.Below g.settings.root (g.settings.root.join "/posts/actions.ts") ∧
      postsDisk.lookup? ["posts"] = none ∧ run.2.disk.lookup? ["posts"] = some .directory := by
  refine ⟨by decide, by decide, by decide +kernel, by decide +kernel, ?_, by decide,
    by decide +kernel⟩
  rintro ⟨-, names, -, -, parts⟩
  have top : "posts".toList = "p".toList := (List.cons.inj parts).1
  exact absurd top (by decide)

end Generator

end Groundwork
