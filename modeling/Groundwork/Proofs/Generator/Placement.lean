import Groundwork.Proofs.Generator.Plan

/-!
# Placed drafts

The drafts of a command go to destinations that are known before it runs, and none of which is at or
above an earlier one (`Placed`). So no file that the command writes has a bearing on what happens to
the files after it: what a run records can be told from the disk that it started with
(`carryOut_wet`). `Clear` says of a request when its drafts are placed (`Clear.placed`).
-/

namespace Groundwork.Generator

open Disk

variable {g : Generator} {disk : Disk} {work work' : Work} {draft : Draft} {location : Location}

/-- Drafts with their destinations, none of which is at or above an earlier one. -/
structure Placed (g : Generator) (disk : Disk) (placed : List (Draft × Location)) : Prop where
  leads : ∀ p ∈ placed, disk.Leads (g.target p.1) p.2
  apart : placed.Pairwise fun p q => ¬ q.2 <+: p.2

/-- The drafts that are not skipped, as files at their destinations. -/
def written (g : Generator) (disk : Disk) (placed : List (Draft × Location)) :
    List (Location × Text) :=
  placed.filterMap fun p =>
    if (g.entry disk p.1).action = .skip then none else some (p.2, p.1.content)

theorem mem_written {placed : List (Draft × Location)} {file : Location × Text} :
    file ∈ g.written disk placed ↔ ∃ draft, (draft, file.1) ∈ placed ∧
      (g.entry disk draft).action ≠ .skip ∧ draft.content = file.2 := by
  obtain ⟨location, content⟩ := file
  simp only [written, List.mem_filterMap, Prod.exists]
  constructor
  · rintro ⟨draft, other, member, found⟩
    split at found
    · cases found
    · next writes =>
      obtain ⟨rfl, rfl⟩ := Prod.mk.inj (Option.some.inj found)
      exact ⟨draft, member, writes, rfl⟩
  · rintro ⟨draft, member, writes, rfl⟩
    exact ⟨draft, location, member, if_neg writes⟩

/-! ## One draft -/

/-- Putting a draft writes it to its destination, unless it is kept. -/
theorem put_wrote (wet : g.options.dryRun = false)
    (leads : work.disk.Leads (g.target draft) location)
    (done : g.put draft work = (.ok (), work')) :
    work.disk.Wrote work'.disk (g.written work.disk [(draft, location)]) := by
  obtain ⟨-, -, effect⟩ := put_wet wet done
  by_cases kept : (g.entry work.disk draft).action = .skip
  · have none : g.written work.disk [(draft, location)] = [] := by simp [written, kept]
    rw [if_pos kept] at effect
    rw [effect, none]
    exact .nil _
  · have one : g.written work.disk [(draft, location)] = [(location, draft.content)] := by
      simp [written, kept]
    rw [if_neg kept] at effect
    rw [one]
    exact wrote_of_store leads effect

/-- A draft that was put can be found at its destination. -/
theorem resolve_of_put (wet : g.options.dryRun = false)
    (leads : work.disk.Leads (g.target draft) location)
    (done : g.put draft work = (.ok (), work')) :
    work'.disk.resolve (g.target draft) = .ok location := by
  obtain ⟨-, -, effect⟩ := put_wet wet done
  by_cases kept : (g.entry work.disk draft).action = .skip
  · rw [if_pos kept] at effect
    rw [effect]
    exact (leads.resolve_of_has (has_of_skip kept)).1
  · rw [if_neg kept] at effect
    exact resolve_of_store leads effect

/-- What happens to a draft is the same where the same stands at its destination. -/
theorem entry_congr {before after : Disk} (leads : before.Leads (g.target draft) location)
    (keeps : before.Keeps after) (wellFormed : before.WellFormed) (later : after.WellFormed)
    (checked : after.checkNames (g.target draft) = .ok ())
    (same : after.lookup? location = before.lookup? location) :
    g.entry after draft = g.entry before draft := by
  have present : after.has (g.target draft) = before.has (g.target draft) := by
    rw [(leads.mono keeps).has_eq later checked, leads.has_eq wellFormed (keeps.checkNames checked),
      same]
  have action : g.fileAction after draft.path draft.merged =
      g.fileAction before draft.path draft.merged := by
    unfold fileAction
    rw [show g.settings.root.join draft.path = g.target draft from rfl, present]
  unfold entry
  rw [action]

/-! ## Runs -/

section run

variable {before after : Disk} {p q : Draft × Location} {placed : List (Draft × Location)}

theorem written_cons (g : Generator) (disk : Disk) (p : Draft × Location)
    (placed : List (Draft × Location)) :
    g.written disk (p :: placed) = g.written disk [p] ++ g.written disk placed := by
  unfold written
  rw [← List.filterMap_append]
  rfl

/-- The file of the first draft stands neither at nor below a later destination. -/
theorem Placed.apart_first (fits : g.Placed disk (p :: placed)) (later : q ∈ placed) :
    ∀ file ∈ g.written disk [p], ¬ q.2 <+: file.1 := by
  intro file member
  obtain ⟨draft, here, -⟩ := mem_written.1 member
  have place : file.1 = p.2 := congrArg Prod.snd (List.mem_singleton.1 here)
  rw [place]
  exact (List.pairwise_cons.1 fits.apart).1 q later

theorem Placed.later (fits : g.Placed before (p :: placed)) (keeps : before.Keeps after) :
    g.Placed after placed where
  leads q member := (fits.leads q (List.mem_cons_of_mem _ member)).mono keeps
  apart := (List.pairwise_cons.1 fits.apart).2

/-- After the first draft the others are judged as they were before it. -/
theorem Placed.entry_later (fits : g.Placed before (p :: placed)) (wellFormed : before.WellFormed)
    (wrote : before.Wrote after (g.written before [p])) (member : q ∈ placed)
    (checked : after.checkNames (g.target q.1) = .ok ()) :
    g.entry after q.1 = g.entry before q.1 :=
  entry_congr (fits.leads q (List.mem_cons_of_mem _ member)) wrote.keeps wellFormed
    (wrote.wellFormed wellFormed) checked (wrote.untouched (fits.apart_first member))

/-- A run that carries out placed drafts records each of them as it was judged at the start, writes
    those that are not skipped to their destinations, and all can be found there. -/
theorem carryOut_wet (wet : g.options.dryRun = false) (wellFormed : work.disk.WellFormed)
    (fits : g.Placed work.disk placed)
    (done : g.carryOut (placed.map Prod.fst) work = (.ok (), work')) :
    work'.report = (work.record (placed.map fun p => g.entry work.disk p.1)).report ∧
      work.disk.Wrote work'.disk (g.written work.disk placed) ∧
      ∀ p ∈ placed, work'.disk.resolve (g.target p.1) = .ok p.2 := by
  induction placed generalizing work with
  | nil =>
    obtain ⟨-, rfl⟩ := Prod.mk.inj done
    refine ⟨?_, .nil _, by simp⟩
    rw [List.map_nil, Work.record_nil]
  | cons p placed ih =>
    rw [List.map_cons, carryOut] at done
    unfold Effect.andThen at done
    split at done
    · next mid put =>
      have leads := fits.leads p List.mem_cons_self
      have wrote := put_wrote wet leads put
      have entries : ∀ q ∈ placed, g.entry mid.disk q.1 = g.entry work.disk q.1 :=
        fun q member => fits.entry_later wellFormed wrote member
          (checkNames_of_carryOut wet done q.1 (List.mem_map_of_mem member))
      have sameWritten : g.written mid.disk placed = g.written work.disk placed :=
        List.filterMap_congr fun q member => by rw [entries q member]
      have sameEntries : (placed.map fun q => g.entry mid.disk q.1) =
          placed.map fun q => g.entry work.disk q.1 := List.map_congr_left entries
      obtain ⟨recorded, wroteOthers, found⟩ :=
        ih (wrote.wellFormed wellFormed) (fits.later wrote.keeps) done
      rw [sameWritten] at wroteOthers
      rw [sameEntries] at recorded
      refine ⟨?_, ?_, ?_⟩
      · have report := (put_wet wet put).2.1
        unfold Work.record at report recorded ⊢
        rw [recorded, report]
        simp
      · rw [written_cons]
        refine wrote.append wroteOthers ?_
        intro first here second there same
        obtain ⟨other, member, -⟩ := mem_written.1 there
        exact fits.apart_first member first here (same ▸ List.prefix_refl _)
      · intro q member
        rcases List.mem_cons.1 member with rfl | later
        · exact wroteOthers.keeps.resolve (resolve_of_put wet leads put)
        · exact found q later
    · cases (Prod.mk.inj done).1

end run

/-! ## Files in a directory -/

/-- Paths of files in one directory: they lead downwards, none of them leads to an earlier one or
    above it, and none is called like the schema file. -/
structure Fit (paths : List Text) : Prop where
  relative : ∀ path ∈ paths, Path.anchorOf path = []
  plain : ∀ path ∈ paths, "..".toList ∉ Path.partsOf path
  named : ∀ path ∈ paths, Path.partsOf path ≠ [] ∧
    (Path.partsOf path).getLast? ≠ some "schema.ts".toList
  apart : paths.Pairwise fun p q => ¬ Path.partsOf q <+: Path.partsOf p

theorem fit_nil : Fit [] := ⟨by simp, by simp, by simp, .nil⟩

theorem fit_actions : Fit ["actions.ts".toList] := ⟨by decide, by decide, by decide, by decide⟩

theorem fit_pages : Fit ["page.tsx".toList, "new/page.tsx".toList, "[id]/page.tsx".toList,
    "[id]/edit/page.tsx".toList] := ⟨by decide, by decide, by decide, by decide⟩

theorem fit_scaffold : Fit ["actions.ts".toList, "page.tsx".toList, "new/page.tsx".toList,
    "[id]/page.tsx".toList, "[id]/edit/page.tsx".toList] :=
  ⟨by decide, by decide, by decide, by decide⟩

theorem fit_routes : Fit ["route.ts".toList, "[id]/route.ts".toList] :=
  ⟨by decide, by decide, by decide, by decide⟩

/-- The names of a file in a directory follow those of the directory. -/
theorem parts_fileIn {directory : Text} {file : Text × Text} (nonempty : directory ≠ [])
    (relative : Path.anchorOf file.1 = []) :
    (g.target (fileIn directory file)).parts =
      (g.settings.root.join directory).parts ++ Path.partsOf file.1 := by
  have joined := Path.parts_join_join g.settings.root nonempty relative
  unfold target fileIn
  dsimp only
  rw [← joined]
  simp [Path.join, relative]

/-- The files of a directory are placed below its destination. -/
theorem placed_files {directory : Text} {files : List (Text × Text)} (nonempty : directory ≠ [])
    (fit : Fit (files.map Prod.fst))
    (leads : disk.Leads (g.settings.root.join directory) location) :
    g.Placed disk (files.map fun file =>
      (fileIn directory file, location ++ Path.partsOf file.1)) := by
  constructor
  · intro p member
    obtain ⟨file, inside, rfl⟩ := List.mem_map.1 member
    have path := List.mem_map_of_mem (f := Prod.fst) inside
    exact leads.append (parts_fileIn nonempty (fit.relative _ path)) (fit.plain _ path)
  · rw [List.pairwise_map]
    refine (List.pairwise_map.1 fit.apart).imp fun {p q} apart above => ?_
    exact apart ((List.prefix_append_right_inj _).1 above)

/-! ## The drafts of a command -/

/-- The command writes the schema file. -/
def writesSchema : Request → Bool
  | .actions _ | .pages _ _ => false
  | .model _ _ | .scaffold _ _ | .resource _ _ | .api _ _ => true

/-- The directory that a command writes a model's files to, besides the schema file. -/
def directory? (g : Generator) : Request → Option Text
  | .model _ _ => none
  | .actions name | .scaffold name _ | .resource name _ => some (g.pagePath (.ofName name) [])
  | .pages names _ => some (g.pagePath names [])
  | .api name _ => some (g.apiPath (.ofName name))

/-- The drafts of a command: at most the schema file, and files in one directory. -/
structure Layout (g : Generator) (disk : Disk) (request : Request) (drafts schema : List Draft)
    (directory : Text) (files : List (Text × Text)) : Prop where
  drafts : drafts = schema ++ files.map (fileIn directory)
  fit : Fit (files.map Prod.fst)
  schema : schema = [] ∨ ∃ name tokens draft, schema = [draft] ∧
    g.schemaDraft disk name tokens = .ok draft ∧ writesSchema request = true
  directory : files = [] ∨ directory ≠ [] ∧ g.directory? request = some directory

theorem pagePath_ne_nil (g : Generator) (names : ModelNames) : g.pagePath names [] ≠ [] := by
  unfold pagePath
  rw [List.intercalate_cons_cons]
  simp

theorem apiPath_ne_nil (g : Generator) (names : ModelNames) : g.apiPath names ≠ [] := by
  unfold apiPath
  rw [List.intercalate_cons_cons]
  simp

/-- A plan for a model's names and fields has the schema's draft first. -/
theorem exists_schemaDraft {name : Text} {tokens : List Text} {drafts : List Draft}
    {later : ModelNames × List Field → List Draft}
    (planned : (do
      let found ← g.named name tokens
      return (← g.schemaDraft disk found.1.singular tokens) :: later found) = Except.ok drafts) :
    ∃ fields draft, g.schemaDraft disk (ModelNames.ofName name).singular tokens = .ok draft ∧
      drafts = draft :: later (.ofName name, fields) := by
  obtain ⟨⟨names, fields⟩, found, rest⟩ := bind_eq_ok_iff.1 planned
  obtain rfl := names_of_named found
  obtain ⟨draft, drafted, done⟩ := bind_eq_ok_iff.1 rest
  exact ⟨fields, draft, drafted, (Except.ok.inj done).symm⟩

/-- What a command plans is laid out in this way. -/
theorem plan_layout {request : Request} {drafts : List Draft}
    (planned : g.plan disk request = .ok drafts) :
    ∃ schema directory files, g.Layout disk request drafts schema directory files := by
  cases request with
  | model name tokens =>
    obtain ⟨draft, drafted, done⟩ := bind_eq_ok_iff.1 planned
    obtain rfl := Except.ok.inj done
    exact ⟨[draft], [], [], rfl, fit_nil, .inr ⟨_, _, draft, rfl, drafted, rfl⟩, .inl rfl⟩
  | actions name =>
    obtain ⟨_, -, done⟩ := bind_eq_ok_iff.1 planned
    obtain rfl := Except.ok.inj done
    exact ⟨[], _, [g.actionsFile (.ofName name)], rfl, fit_actions, .inl rfl,
      .inr ⟨pagePath_ne_nil g _, rfl⟩⟩
  | pages names fields =>
    obtain rfl := Except.ok.inj planned
    exact ⟨[], _, g.pageFiles names fields, rfl, fit_pages, .inl rfl,
      .inr ⟨pagePath_ne_nil g _, rfl⟩⟩
  | scaffold name tokens =>
    obtain ⟨fields, draft, drafted, rfl⟩ := exists_schemaDraft planned
    exact ⟨[draft], _, _, rfl, fit_scaffold, .inr ⟨_, _, draft, rfl, drafted, rfl⟩,
      .inr ⟨pagePath_ne_nil g _, rfl⟩⟩
  | resource name tokens =>
    obtain ⟨fields, draft, drafted, rfl⟩ := exists_schemaDraft planned
    exact ⟨[draft], _, [g.actionsFile _], rfl, fit_actions, .inr ⟨_, _, draft, rfl, drafted, rfl⟩,
      .inr ⟨pagePath_ne_nil g _, rfl⟩⟩
  | api name tokens =>
    obtain ⟨fields, draft, drafted, rfl⟩ := exists_schemaDraft planned
    exact ⟨[draft], _, g.routeFiles _, rfl, fit_routes, .inr ⟨_, _, draft, rfl, drafted, rfl⟩,
      .inr ⟨apiPath_ne_nil g _, rfl⟩⟩

/-! ## Requests with known destinations -/

/-- The directories of the schema and of the model's files have destinations, as far as the command
    writes there, and the former is not in the latter, though it may be the same. -/
structure Clear (g : Generator) (disk : Disk) (request : Request) (outer inside : Location) :
    Prop where
  schema : writesSchema request = true → disk.Leads g.settings.dbDirectory outer
  files : ∀ directory, g.directory? request = some directory →
    disk.Leads (g.settings.root.join directory) inside
  apart : writesSchema request = true → inside <+: outer → outer = inside

theorem draft_of_schemaDraft {name : Text} {tokens : List Text}
    (drafted : g.schemaDraft disk name tokens = .ok draft) :
    draft.path = g.schemaPath ∧ draft.merged = disk.has g.settings.schemaFile ∧
      disk.checkNames g.settings.schemaFile = .ok () := by
  obtain ⟨⟨names, fields⟩, -, rest⟩ := bind_eq_ok_iff.1 drafted
  obtain ⟨_, checked, rest⟩ := bind_eq_ok_iff.1 rest
  cases present : disk.has g.settings.schemaFile with
  | false =>
    rw [present] at rest
    obtain rfl := Except.ok.inj rest
    exact ⟨rfl, rfl, checked⟩
  | true =>
    rw [present] at rest
    obtain ⟨content, -, rest⟩ := bind_eq_ok_iff.1 rest
    obtain ⟨text, -, rest⟩ := bind_eq_ok_iff.1 rest
    obtain rfl := Except.ok.inj rest
    exact ⟨rfl, rfl, checked⟩

/-- The schema file stands in its directory, or at the top if that has no name. -/
theorem leads_schemaPath {outer inside : Location} (apart : inside <+: outer → outer = inside)
    (path : draft.path = g.schemaPath) (leads : disk.Leads g.settings.dbDirectory outer) :
    ∃ above, disk.Leads (g.target draft) (above ++ ["schema.ts".toList]) ∧
      (inside <+: above → above = inside) := by
  by_cases empty : g.settings.dbFolder = []
  · refine ⟨[], ⟨[], ["schema.ts".toList], [], ?_, by decide, rfl, rfl⟩, ?_⟩
    · unfold target
      rw [path]
      exact parts_schemaPath_of_empty empty
    · intro top
      exact (List.prefix_nil.1 top).symm
  · refine ⟨outer, leads.append ?_ (by decide), apart⟩
    have parts := parts_schemaFile empty
    unfold target
    rw [path, ← parts]
    rfl

/-- A file in a directory that the schema's is not in does not stand at or above the schema. -/
theorem not_above_schema {inside above : Location} {tail : List Text}
    (apart : inside <+: above → above = inside) (nonempty : tail ≠ [])
    (other : tail.getLast? ≠ some "schema.ts".toList) :
    ¬ inside ++ tail <+: above ++ ["schema.ts".toList] := by
  intro higher
  have shorter : inside.length ≤ above.length := by
    have lengths := higher.length_le
    have some := List.length_pos_iff.2 nonempty
    simp only [List.length_append, List.length_singleton] at lengths
    omega
  have within : inside <+: above ++ ["schema.ts".toList] := (List.prefix_append _ _).trans higher
  rw [apart (List.prefix_of_prefix_length_le within (List.prefix_append _ _) shorter),
    List.prefix_append_right_inj] at higher
  have whole : tail = ["schema.ts".toList] := by
    refine higher.eq_of_length ?_
    have lengths := higher.length_le
    have some := List.length_pos_iff.2 nonempty
    simp only [List.length_singleton] at lengths ⊢
    omega
  exact other (by rw [whole]; rfl)

/-- A request is clear on every disk if neither directory's path climbs, and the schema's is not in
    the other one. -/
theorem Clear.of_plain {request : Request} {directory : Text}
    (writes : g.directory? request = some directory)
    (schema : "..".toList ∉ g.settings.dbDirectory.parts)
    (files : "..".toList ∉ (g.settings.root.join directory).parts)
    (apart : (g.settings.root.join directory).parts <+: g.settings.dbDirectory.parts →
      g.settings.dbDirectory.parts = (g.settings.root.join directory).parts) :
    g.Clear disk request g.settings.dbDirectory.parts (g.settings.root.join directory).parts where
  schema _ := .of_plain schema
  files other found := by
    rw [writes] at found
    exact Option.some.inj found ▸ .of_plain files
  apart _ := apart

/-- The drafts of a clear request are placed. -/
theorem Clear.placed {request : Request} {drafts : List Draft} {outer inside : Location}
    (clear : g.Clear disk request outer inside) (planned : g.plan disk request = .ok drafts) :
    ∃ placed, placed.map Prod.fst = drafts ∧ g.Placed disk placed := by
  obtain ⟨schema, directory, files, layout⟩ := plan_layout planned
  have below : ∃ placed, placed.map Prod.fst = files.map (fileIn directory) ∧
      g.Placed disk placed ∧ ∀ p ∈ placed, ∃ tail, p.2 = inside ++ tail ∧
        tail ≠ [] ∧ tail.getLast? ≠ some "schema.ts".toList := by
    rcases layout.directory with rfl | ⟨nonempty, found⟩
    · exact ⟨[], rfl, ⟨by simp, .nil⟩, by simp⟩
    · refine ⟨_, ?_, placed_files nonempty layout.fit (clear.files directory found), ?_⟩
      · rw [List.map_map]
        rfl
      · intro p member
        obtain ⟨file, there, rfl⟩ := List.mem_map.1 member
        exact ⟨_, rfl, layout.fit.named _ (List.mem_map_of_mem there)⟩
  obtain ⟨placed, drafts, fits, tails⟩ := below
  rcases layout.schema with rfl | ⟨name, tokens, draft, rfl, drafted, writes⟩
  · exact ⟨placed, by rw [layout.drafts, drafts]; rfl, fits⟩
  · obtain ⟨above, leads, apart⟩ := leads_schemaPath (clear.apart writes)
      (draft_of_schemaDraft drafted).1 (clear.schema writes)
    refine ⟨(draft, above ++ ["schema.ts".toList]) :: placed, ?_, ?_, ?_⟩
    · rw [layout.drafts, List.map_cons, drafts]
      rfl
    · intro p member
      rcases List.mem_cons.1 member with rfl | member
      · exact leads
      · exact fits.leads p member
    · refine List.pairwise_cons.2 ⟨?_, fits.apart⟩
      intro p member
      obtain ⟨tail, same, nonempty, other⟩ := tails p member
      rw [same]
      exact not_above_schema apart nonempty other

end Groundwork.Generator
