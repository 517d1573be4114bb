import Groundwork.Proofs.Disk.Place
import Groundwork.Proofs.Generator.Directory
import Groundwork.Proofs.Generator.Parts

/-!
# Homes of models

The home of a model is the place of the directory with its files: in the app's directory, under the
model's plural (`home_eq`). A file of the model is written below it (`place_fileIn`), the schema is
kept below it only if the settings say so (`not_home_above_schema`), and no home lies in another one
(`home_prefix_iff`). Files that were carried out can be found at their places, and no other file is
changed (`place_of_carryOut`).
-/

namespace Groundwork

namespace Generator

open Disk

variable {g : Generator} {disk : Disk} {name a b : Text} {tokens : List Text}
  {removable j k : Removable} {draft : Draft} {drafts : List Draft} {file : Text × Text}
  {location : Location} {work work' : Work}

/-- The place of the directory with a model's files. -/
def home (g : Generator) (name : Text) (removable : Removable) : Location :=
  (g.settings.root.join (g.directoryOf (.ofName name) removable)).place

/-- The place of the app's directory. -/
def appPlace (g : Generator) : Location :=
  (g.settings.root.join (g.settings.appFolder ++ ['/'])).place

/-! ## Homes -/

/-- A model's home is named by its plural. -/
theorem home_eq (g : Generator) (valid : checkModelName name = .ok ()) (removable : Removable) :
    g.home name removable =
      g.appPlace ++ (between removable ++ [(ModelNames.ofName name).kebabPlural]) := by
  have plain : "..".toList ∉ between removable ++ [(ModelNames.ofName name).kebabPlural] := by
    rw [List.mem_append, List.mem_singleton, not_or]
    exact ⟨by cases removable <;> decide, (kebabPlural_ne_climb valid).symm⟩
  refine Path.place_of_parts ?_ plain
  rw [directoryOf_eq, Path.parts_join_slash, partsOf_innerPath valid]

/-- The plural of no name is `api`: it ends in another letter. -/
theorem kebabPlural_ne_api (name : Text) :
    (ModelNames.ofName name).kebabPlural ≠ ['a', 'p', 'i'] := by
  intro same
  have last : (ModelNames.ofName name).kebabPlural.getLast? = some 's' :=
    Naming.getLast?_kebab_pluralise _
  rw [same] at last
  exact absurd last (by decide)

/-- A home lies above a place in a home exactly if it is the same one. The handlers of models have
    their homes in the directory `api`, which is nobody's home. -/
theorem home_prefix_iff (validA : checkModelName a = .ok ()) (validB : checkModelName b = .ok ())
    (names : List Text) :
    g.home a j <+: g.home b k ++ names ↔
      (ModelNames.ofName a).kebabPlural = (ModelNames.ofName b).kebabPlural ∧
        (j = .api ↔ k = .api) := by
  have pagesOutside := kebabPlural_ne_api a
  have handlersInside := (kebabPlural_ne_api b).symm
  rw [home_eq g validA, home_eq g validB, List.append_assoc, List.prefix_append_right_inj]
  cases j <;> cases k <;>
    simp [between, List.cons_prefix_cons, pagesOutside, handlersInside]

theorem home_ne_nil (valid : checkModelName name = .ok ()) : g.home name removable ≠ [] := by
  rw [home_eq g valid]
  simp

theorem directoryOf_ne_nil (g : Generator) (names : ModelNames) (removable : Removable) :
    g.directoryOf names removable ≠ [] := by
  rw [directoryOf_eq]
  simp

/-! ## Files of a model -/

/-- The files of a model are placed in its home. -/
theorem place_fileIn (relative : Path.anchorOf file.1 = [])
    (plain : "..".toList ∉ Path.partsOf file.1) :
    (g.target (fileIn (g.directoryOf (.ofName name) removable) file)).place =
      g.home name removable ++ Path.partsOf file.1 :=
  Path.place_of_parts (parts_fileIn (directoryOf_ne_nil g _ _) relative) plain

/-- Where a file of a model is found, the model's directory is found as well. -/
theorem resolve_home (valid : checkModelName name = .ok ())
    (relative : Path.anchorOf file.1 = []) (named : Path.partsOf file.1 ≠ [])
    (found : disk.resolve (g.target (fileIn (g.directoryOf (.ofName name) removable) file)) =
      .ok location) :
    disk.resolve (g.settings.root.join (g.directoryOf (.ofName name) removable)) =
        .ok (g.home name removable) ∧
      disk.lookup? (g.home name removable) = some .directory := by
  obtain ⟨nonempty, noSlash, -⟩ := ModelNames.kebabPlural_isFileName valid
  obtain ⟨c, member⟩ := List.exists_mem_of_ne_nil _ nonempty
  have inside : c ∈ g.directoryOf (.ofName name) removable := by
    rw [directoryOf_eq]
    cases removable <;> simp [innerPath, member]
  have noSlash : c ≠ '/' := by
    rintro rfl
    exact noSlash member
  refine resolve_of_longer found (Path.anchor_join_append _ inside noSlash _) ?_
    (parts_fileIn (directoryOf_ne_nil g _ _) relative) named
  rw [directoryOf_eq, Path.parts_join_slash, partsOf_innerPath valid]
  simp

/-- The schema file is kept in no home that its directory is not in. -/
theorem not_home_above_schema (valid : checkModelName name = .ok ())
    (apart : ¬ g.home name removable <+: g.settings.dbDirectory.place)
    (path : draft.path = g.schemaPath) :
    ¬ g.home name removable <+: (g.target draft).place := by
  have other (base : Location) : g.home name removable ≠ base ++ ["schema.ts".toList] := by
    intro same
    have last := congrArg List.getLast? same
    rw [home_eq g valid, ← List.append_assoc, List.getLast?_concat, List.getLast?_concat] at last
    have noDot := (ModelNames.kebabPlural_isFileName valid).2.2
    rw [Option.some.inj last] at noDot
    exact noDot (by decide)
  by_cases empty : g.settings.dbFolder = []
  · have top : (g.target draft).place = [] ++ ["schema.ts".toList] := by
      unfold target
      rw [path, Path.place_eq_foldl, parts_schemaPath_of_empty empty]
      decide
    rw [top, List.prefix_concat_iff, not_or, List.prefix_nil]
    exact ⟨other [], home_ne_nil valid⟩
  · have below : (g.target draft).place = g.settings.dbDirectory.place ++ ["schema.ts".toList] := by
      refine Path.place_of_parts ?_ (by decide)
      unfold target
      rw [path, ← parts_schemaFile empty]
      rfl
    rw [below, List.prefix_concat_iff, not_or]
    exact ⟨other _, apart⟩

end Generator

/-! ## Requests for what can be removed -/

/-- The command that generates what can be removed for a model. -/
def Removable.request (removable : Removable) (name : Text) (tokens : List Text) : Request :=
  match removable with
  | .scaffold => .scaffold name tokens
  | .resource => .resource name tokens
  | .api => .api name tokens

namespace Generator

open Disk

variable {g : Generator} {disk : Disk} {name : Text} {tokens : List Text} {removable : Removable}
  {draft : Draft} {drafts : List Draft} {location : Location} {work work' : Work}

/-- Such a command writes the schema file, and then files in the model's directory. -/
theorem plan_request (planned : g.plan disk (removable.request name tokens) = .ok drafts) :
    ∃ draft files, checkModelName name = .ok () ∧
      g.schemaDraft disk (ModelNames.ofName name).singular tokens = .ok draft ∧
      drafts = draft :: files.map (fileIn (g.directoryOf (.ofName name) removable)) ∧
      Fit (files.map Prod.fst) ∧ files ≠ [] := by
  cases removable with
  | scaffold =>
    obtain ⟨fields, draft, drafted, rfl⟩ := exists_schemaDraft planned
    exact ⟨draft, _, valid_of_named planned, drafted, rfl, fit_scaffold, List.cons_ne_nil _ _⟩
  | resource =>
    obtain ⟨fields, draft, drafted, rfl⟩ := exists_schemaDraft planned
    exact ⟨draft, [g.actionsFile _], valid_of_named planned, drafted, rfl, fit_actions,
      List.cons_ne_nil _ _⟩
  | api =>
    obtain ⟨fields, draft, drafted, rfl⟩ := exists_schemaDraft planned
    exact ⟨draft, g.routeFiles _, valid_of_named planned, drafted, rfl, fit_routes,
      List.cons_ne_nil _ _⟩

/-! ## Runs -/

/-- A command that succeeds carries out its plan. -/
theorem exists_plan {request : Request} {s s' : Session}
    (done : (g.generate request).on s = (.ok (), s')) :
    ∃ drafts, g.plan s.disk request = .ok drafts ∧
      g.carryOut drafts s.work = (.ok (), s'.work) := by
  have planned := (generate_follows g request s).exists_plan (by rw [done])
  rwa [done] at planned

/-- The command for the schema alone ends once the schema's draft is put. -/
theorem model_of_put {s : Session} (valid : checkModelName name = .ok ())
    (drafted : g.schemaDraft s.disk (ModelNames.ofName name).singular tokens = .ok draft)
    (put : g.put draft s.work = (.ok (), work)) :
    ((g.model name tokens).on s).1 = .ok () ∧ ((g.model name tokens).on s).2.work = work := by
  have follows := model_follows g (ModelNames.ofName name).singular tokens s
  have ends : g.carryOut [draft] s.work = (.ok (), work) := by
    have alone : g.carryOut [draft] = g.put draft := Effect.andThen_ok _
    rw [alone, put]
  rw [model_singular g tokens valid (valid_of_schemaDraft drafted), drafted] at follows
  exact Prod.mk.inj (follows.trans ends)

/-- A draft that was put can be found at its place, and no other file is changed. -/
theorem place_of_put (wet : g.options.dryRun = false) (done : g.put draft work = (.ok (), work')) :
    work'.disk.resolve (g.target draft) = .ok (g.target draft).place ∧
      ∀ location, location ≠ (g.target draft).place →
        work'.disk.file? location = work.disk.file? location := by
  obtain ⟨-, -, effect⟩ := put_wet wet done
  by_cases kept : (g.entry work.disk draft).action = .skip
  · rw [if_pos kept] at effect
    rw [effect]
    exact ⟨resolve_place_of_has (has_of_skip kept), fun _ _ => rfl⟩
  · rw [if_neg kept] at effect
    exact ⟨resolve_place_of_store effect, fun _ apart => file?_of_store effect apart⟩

/-- Drafts that were carried out can be found at their places, and no other file is changed. -/
theorem place_of_carryOut (wet : g.options.dryRun = false)
    (done : g.carryOut drafts work = (.ok (), work')) :
    work.disk.Keeps work'.disk ∧
      (∀ draft ∈ drafts, work'.disk.resolve (g.target draft) = .ok (g.target draft).place) ∧
      ∀ location, (∀ draft ∈ drafts, location ≠ (g.target draft).place) →
        work'.disk.file? location = work.disk.file? location := by
  induction drafts generalizing work with
  | nil =>
    obtain ⟨-, rfl⟩ := Prod.mk.inj done
    exact ⟨.refl _, by simp, fun _ _ => rfl⟩
  | cons draft drafts ih =>
    unfold carryOut Effect.andThen at done
    split at done
    · next mid put =>
      obtain ⟨found, same⟩ := place_of_put wet put
      obtain ⟨keeps, others, later⟩ := ih done
      refine ⟨(keeps_of_put wet put).trans keeps, ?_, ?_⟩
      · intro other member
        rcases List.mem_cons.1 member with rfl | member
        · exact keeps.resolve found
        · exact others other member
      · intro location apart
        rw [later location fun other member => apart other (List.mem_cons_of_mem _ member),
          same location (apart draft List.mem_cons_self)]
    · cases (Prod.mk.inj done).1

end Generator

end Groundwork
