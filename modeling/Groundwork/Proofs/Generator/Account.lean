import Groundwork.Proofs.Generator.Placement

/-!
# The account of a run

After a command that wrote its files, the report accounts for the disk (`generate_accounts`): what
it says of each file is what was found before, the files that were not skipped hold what it says,
and nothing else was touched, besides new directories. Without forcing, no file that existed is
changed but the schema.

The places of the files need to be known before the run. Otherwise a file may be overwritten that
was not seen (`climb_overwrites`).
-/

namespace Groundwork.Generator

open Command Disk

variable {g : Generator} {disk : Disk} {draft : Draft}

/-- The files of a report tell what became of the disk. -/
structure Accounts (g : Generator) (before after : Disk) (files : List GeneratedFile) : Prop where
  /-- Files are judged by what stands at their paths before the command. -/
  action : ∀ file ∈ files, file.action =
    if !before.has (g.settings.root.join file.path) then .create
    else if file.path = g.schemaPath then .update
    else if g.options.force then .force
    else .skip
  holds : ∀ file ∈ files, file.action ≠ .skip →
    after.find? (g.settings.root.join file.path) = some (.file (.text file.content))
  kept : ∀ file ∈ files, file.action = .skip →
    after.find? (g.settings.root.join file.path) = before.find? (g.settings.root.join file.path)
  /-- Only directories are new where no file of the report was written. -/
  elsewhere : ∀ location, (∀ file ∈ files, file.action ≠ .skip →
      after.resolve (g.settings.root.join file.path) ≠ .ok location) →
    after.lookup? location = before.lookup? location ∨
      before.lookup? location = none ∧ after.lookup? location = some .directory
  remains : ∀ location content, before.lookup? location = some (.file content) →
    ∃ content', after.lookup? location = some (.file content')
  unforced : g.options.force = false → ∀ location content,
    before.lookup? location = some (.file content) →
    after.resolve (g.settings.root.join g.schemaPath) ≠ .ok location →
    after.lookup? location = some (.file content)

/-! ## Judging a draft -/

/-- A file of a fitting path is not called like the schema file. -/
theorem path_ne_schemaPath {directory : Text} {file : Text × Text} {files : List (Text × Text)}
    (fit : Fit (files.map Prod.fst)) (member : file ∈ files) :
    (fileIn directory file).path ≠ g.schemaPath := by
  intro same
  obtain ⟨nonempty, other⟩ := fit.named file.1 (List.mem_map_of_mem member)
  have parts := congrArg Path.partsOf same
  unfold fileIn schemaPath at parts
  dsimp only at parts
  rw [Path.partsOf_append, show "/schema.ts".toList = '/' :: "schema.ts".toList from rfl,
    Path.partsOf_append] at parts
  have last := congrArg List.getLast? parts
  rw [List.getLast?_append_of_ne_nil _ nonempty,
    List.getLast?_append_of_ne_nil _ (by decide)] at last
  exact other last

/-- Exactly the draft of the schema file is merged with what the file holds. -/
theorem merged_of_plan (named : g.settings.dbFolder ≠ []) {request : Request}
    {drafts : List Draft} (planned : g.plan disk request = .ok drafts)
    (checked : ∀ draft ∈ drafts, disk.checkNames (g.target draft) = .ok ())
    (member : draft ∈ drafts) (present : disk.has (g.target draft) = true) :
    draft.merged = decide (draft.path = g.schemaPath) := by
  obtain ⟨schema, directory, files, layout⟩ := plan_layout planned
  have inside := member
  rw [layout.drafts, List.mem_append] at inside
  rcases inside with first | later
  · rcases layout.schema with rfl | ⟨name, tokens, other, rfl, drafted, -⟩
    · simp at first
    · obtain rfl := List.mem_singleton.1 first
      obtain ⟨path, merged, schemaChecked⟩ := draft_of_schemaDraft drafted
      have parts := parts_schemaFile named
      have same : disk.has (g.target draft) = disk.has g.settings.schemaFile := by
        unfold target has
        rw [path, find?_congr parts.symm (length_of_checkNames schemaChecked)]
        have short := length_of_checkNames (checked draft member)
        unfold target at short
        rwa [path] at short
      rw [merged, ← same, present, decide_eq_true path]
  · obtain ⟨file, there, rfl⟩ := List.mem_map.1 later
    rw [decide_eq_false (path_ne_schemaPath layout.fit there)]
    rfl

/-- The action of a draft, told from its path. -/
theorem action_of_merged
    (merged : disk.has (g.target draft) = true →
      draft.merged = decide (draft.path = g.schemaPath)) :
    (g.entry disk draft).action =
      if !disk.has (g.settings.root.join draft.path) then .create
      else if draft.path = g.schemaPath then .update
      else if g.options.force then .force
      else .skip := by
  unfold entry fileAction
  dsimp only
  cases present : disk.has (g.settings.root.join draft.path) with
  | false => rfl
  | true =>
    rw [merged present]
    by_cases schema : draft.path = g.schemaPath
    · simp [schema]
    · simp [schema]

/-- Drafts with the same destination are the same. -/
theorem Placed.unique {placed : List (Draft × Location)} (fits : g.Placed disk placed)
    {p q : Draft × Location} (first : p ∈ placed) (second : q ∈ placed) (same : p.2 = q.2) :
    p = q := by
  have distinct : (placed.map Prod.snd).Nodup := by
    refine List.pairwise_map.2 (fits.apart.imp fun {p q} apart same => ?_)
    exact apart (same ▸ List.prefix_refl _)
  exact List.inj_on_of_nodup_map distinct first second same

/-! ## The account -/

section account

variable {before after : Disk} {placed : List (Draft × Location)} {p : Draft × Location}

/-- A draft that was found at its destination is what stands there. -/
theorem find?_target (found : disk.resolve (g.target p.1) = .ok p.2) :
    disk.find? (g.target p.1) = disk.lookup? p.2 := by
  unfold find?
  rw [found]

/-- What stands at the path of a draft that is skipped stays. -/
theorem kept_of_wrote (fits : g.Placed before placed)
    (wrote : before.Wrote after (g.written before placed)) (member : p ∈ placed)
    (found : after.resolve (g.target p.1) = .ok p.2)
    (skipped : (g.entry before p.1).action = .skip) :
    after.find? (g.target p.1) = before.find? (g.target p.1) := by
  obtain ⟨resolved, stands⟩ := (fits.leads p member).resolve_of_has (has_of_skip skipped)
  have apart : ∀ file ∈ g.written before placed, file.1 ≠ p.2 := by
    rintro ⟨location, content⟩ other rfl
    obtain ⟨draft, there, writes, -⟩ := mem_written.1 other
    rw [fits.unique member there rfl] at skipped
    exact writes skipped
  rw [find?_target found, find?_target resolved]
  exact wrote.stays apart stands

/-- The actions of drafts are told from their paths. -/
def Judged (g : Generator) (before : Disk) (placed : List (Draft × Location)) : Prop :=
  ∀ p ∈ placed, (g.entry before p.1).action =
    if !before.has (g.settings.root.join p.1.path) then .create
    else if p.1.path = g.schemaPath then .update
    else if g.options.force then .force
    else .skip

/-- Without forcing, a draft that is written where a file stands is the schema's. -/
theorem path_of_unforced (wellFormed : before.WellFormed) (fits : g.Placed before placed)
    (checked : ∀ p ∈ placed, before.checkNames (g.target p.1) = .ok ())
    (judged : g.Judged before placed) (unforced : g.options.force = false) (member : p ∈ placed)
    (stands : before.lookup? p.2 ≠ none) (writes : (g.entry before p.1).action ≠ .skip) :
    p.1.path = g.schemaPath := by
  have present : before.has (g.settings.root.join p.1.path) = true := by
    have asked := (fits.leads p member).has_eq wellFormed (checked p member)
    exact asked.trans (Option.isSome_iff_ne_none.2 stands)
  rw [judged p member, present, unforced] at writes
  by_contra other
  simp [other] at writes

/-- What is known after a run accounts for the disk. -/
theorem accounts_of_wrote (wellFormed : before.WellFormed) (fits : g.Placed before placed)
    (checked : ∀ p ∈ placed, before.checkNames (g.target p.1) = .ok ())
    (judged : g.Judged before placed) (wrote : before.Wrote after (g.written before placed))
    (found : ∀ p ∈ placed, after.resolve (g.target p.1) = .ok p.2) :
    g.Accounts before after (placed.map fun p => g.entry before p.1) where
  action file member := by
    obtain ⟨p, inside, rfl⟩ := List.mem_map.1 member
    exact judged p inside
  holds file member writes := by
    obtain ⟨p, inside, rfl⟩ := List.mem_map.1 member
    refine (find?_target (found p inside)).trans ?_
    exact wrote.holds (p.2, p.1.content) (mem_written.2 ⟨p.1, inside, writes, rfl⟩)
  kept file member skipped := by
    obtain ⟨p, inside, rfl⟩ := List.mem_map.1 member
    exact kept_of_wrote fits wrote inside (found p inside) skipped
  elsewhere location unwritten := by
    have apart : ∀ file ∈ g.written before placed, file.1 ≠ location := by
      rintro ⟨_, content⟩ member rfl
      obtain ⟨draft, inside, writes, -⟩ := mem_written.1 member
      exact unwritten _ (List.mem_map_of_mem inside) writes (found _ inside)
    rcases wrote.elsewhere location apart with same | ⟨-, new⟩
    · exact .inl same
    · exact .inr new
  remains location content stands := wrote.remains stands
  unforced unforced location content stands other := by
    have something : before.lookup? location ≠ none := by rw [stands]; simp
    have apart : ∀ file ∈ g.written before placed, file.1 ≠ location := by
      rintro ⟨_, text⟩ member rfl
      obtain ⟨draft, inside, writes, -⟩ := mem_written.1 member
      have path := path_of_unforced wellFormed fits checked judged unforced inside something writes
      have resolved := found _ inside
      unfold target at resolved
      rw [path] at resolved
      exact other resolved
    rw [wrote.stays apart something, stands]

end account

/-- The report of a command that wrote its files accounts for the disk. -/
theorem generate_accounts (wet : g.options.dryRun = false) (named : g.settings.dbFolder ≠ [])
    {request : Request} {s s' : Session} (wellFormed : s.disk.WellFormed)
    {outer inside : Location} (clear : g.Clear s.disk request outer inside)
    (done : (g.generate request).on s = (.ok (), s')) :
    ∃ files, s'.report = { s.report with files := s.report.files ++ files } ∧
      g.Accounts s.disk s'.disk files := by
  have follows := generate_follows g request s
  unfold Follows at follows
  rw [done] at follows
  cases planned : g.plan s.disk request with
  | error failure =>
    rw [planned] at follows
    cases (Prod.mk.inj follows).1
  | ok drafts =>
    rw [planned] at follows
    obtain ⟨placed, rfl, fits⟩ := clear.placed planned
    have ran : g.carryOut (placed.map Prod.fst) s.work = (.ok (), s'.work) := follows.symm
    have checked := checkNames_of_carryOut wet ran
    obtain ⟨report, wrote, found⟩ := carryOut_wet wet wellFormed fits ran
    refine ⟨placed.map fun p => g.entry s.disk p.1, ?_, ?_⟩
    · exact report
    refine accounts_of_wrote wellFormed fits ?_ ?_ wrote found
    · intro p member
      exact checked p.1 (List.mem_map_of_mem member)
    · intro p member
      exact action_of_merged
        (merged_of_plan named planned checked (List.mem_map_of_mem member))

/-- A project that has a schema file and the actions of posts. -/
def blogDisk : Disk where
  entries := [(["p"], .directory), (["p", "db"], .directory),
    (["p", "db", "schema.ts"], .file (.text "// no tables yet\n")), (["p", "app"], .directory),
    (["p", "app", "posts"], .directory),
    (["p", "app", "posts", "actions.ts"], .file (.text "// by hand\n"))]

/-- The project at the top's directory `p`, with the usual settings. -/
def blog : Generator := { settings := { root := ⟨"/", ["p"]⟩ } }

/-- A resource is added to the schema, and actions that exist are kept. -/
theorem resource_accounted :
    ∃ s' files, (blog.generate (.resource "post" [])).on { disk := blogDisk } = (.ok (), s') ∧
      s'.report = { files := files } ∧ files.map (·.action) = [.update, .skip] ∧
      blog.Accounts blogDisk s'.disk files := by
  have directory : blog.directory? (.resource "post" []) = some "app/posts" := by decide +kernel
  have clear : blog.Clear blogDisk (.resource "post" []) blog.settings.dbDirectory.parts
      (blog.settings.root.join "app/posts").parts :=
    .of_plain directory (by decide) (by decide) (by decide)
  have succeeds : ((blog.generate (.resource "post" [])).on { disk := blogDisk }).1 = .ok () := by
    decide +kernel
  have actions : ((blog.generate (.resource "post" [])).on { disk := blogDisk }).2.report.files.map
      (·.action) = [.update, .skip] := by decide +kernel
  rcases ran : (blog.generate (.resource "post" [])).on { disk := blogDisk } with ⟨result, s'⟩
  rw [ran] at succeeds actions
  obtain rfl : result = .ok () := succeeds
  obtain ⟨made, report, accounts⟩ :=
    generate_accounts rfl (by decide) (by decide) clear ran
  rw [List.nil_append] at report
  rw [report] at actions
  exact ⟨s', made, rfl, report, actions, accounts⟩

/-- A path that climbs out of a missing directory is taken for a new file, and what was there is
    overwritten. -/
theorem climb_overwrites :
    let g : Generator := { blog with settings.appFolder := "gone/../app" }
    let run := (g.generate (.actions "post")).on { disk := blogDisk }
    run.1 = .ok () ∧ run.2.report.files.map (·.action) = [.create] ∧
      blogDisk.lookup? ["p", "app", "posts", "actions.ts"] =
        some (.file (.text "// by hand\n")) ∧
      run.2.disk.lookup? ["p", "app", "posts", "actions.ts"] ≠
        some (.file (.text "// by hand\n")) := by
  decide +kernel

end Groundwork.Generator
