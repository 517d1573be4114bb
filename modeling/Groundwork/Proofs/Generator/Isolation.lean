import Groundwork.Proofs.Generator.Account
import Groundwork.Proofs.Generator.Containment
import Groundwork.Proofs.Generator.Dismantling
import Groundwork.Proofs.Generator.Home

/-!
# Isolation of models

What is generated for a model, besides the schema, is in the model's home (`reported_in_home`), and
what is removed for a model is its home. So removing one model spares the files of every other one,
unless the plurals of both have the same spelling, and it spares the pages where handlers are removed
and the other way round (`destroy_spares_others`).
-/

namespace Groundwork.Generator

open Command Disk

variable {g : Generator} {kind a b : Text} {j k : Removable} {tokens : List Text}
  {s s' later : Session} {result : Except Failure Unit} {files : List GeneratedFile}
  {file : GeneratedFile} {disk : Disk} {directory location : Location}

/-- Whatever becomes of a command, the files that it reports besides the schema file are placed in
    the model's home. -/
theorem reported_in_home (ran : (g.generate (k.request b tokens)).on s = (result, s'))
    (report : s'.report = { s.report with files := s.report.files ++ files })
    (member : file ∈ files) (other : file.path ≠ g.schemaPath) :
    checkModelName b = .ok () ∧
      ∃ names, (g.settings.root.join file.path).place = g.home b k ++ names := by
  have follows := (generate_follows g (k.request b tokens) s).inversion
  rw [ran] at follows
  rcases follows with ⟨failure, -, -, unchanged⟩ | ⟨drafts, planned, carried⟩
  · have none : s.report.files ++ files = s.report.files ++ [] := by
      rw [List.append_nil]
      exact (congrArg Report.files report).symm.trans
        (congrArg (fun work => work.report.files) unchanged)
    rw [List.append_cancel_left none] at member
    cases member
  · obtain ⟨draft, entries, valid, drafted, rfl, fit, -⟩ := plan_request planned
    obtain ⟨recorded, reported, paths⟩ := report_carryOut carried
    have same : s.report.files ++ files = s.report.files ++ recorded :=
      (congrArg Report.files report).symm.trans (congrArg Report.files reported)
    rw [List.append_cancel_left same] at member
    obtain ⟨origin, planned, path⟩ := paths file member
    rw [path] at other ⊢
    refine ⟨valid, ?_⟩
    rcases List.mem_cons.1 planned with rfl | inDirectory
    · exact absurd (draft_of_schemaDraft drafted).1 other
    · obtain ⟨entry, inside, rfl⟩ := List.mem_map.1 inDirectory
      exact ⟨_, place_fileIn (fit.relative _ (List.mem_map_of_mem inside))
        (fit.plain _ (List.mem_map_of_mem inside))⟩

/-- The directory that is removed for a model is the model's home. -/
theorem Removes.eq_home (removes : g.Removes disk kind a directory)
    (word : Removable.ofWord? kind = some j) : directory = g.home a j := by
  obtain ⟨-, -, removable, named, found, -⟩ := removes
  rw [word] at named
  obtain rfl := Option.some.inj named
  exact eq_place_of_resolve found

/-- Removing a model's files takes away a file of another command exactly if both plurals have the
    same spelling and both commands are for handlers, or both are not. All other files stay, on
    whatever disk it is done. -/
theorem destroy_spares_others {options : Options} (word : Removable.ofWord? kind = some j)
    (removes : { g with options }.Removes later.disk kind a directory)
    (ran : (g.generate (k.request b tokens)).on s = (result, s'))
    (report : s'.report = { s.report with files := s.report.files ++ files })
    (member : file ∈ files) (other : file.path ≠ g.schemaPath)
    (found : disk.resolve (g.settings.root.join file.path) = .ok location) :
    (directory <+: location ↔
      (ModelNames.ofName a).kebabPlural = (ModelNames.ofName b).kebabPlural ∧
        (j = .api ↔ k = .api)) ∧
    (¬ directory <+: location →
      (({ g with options }.destroy kind a).on later).2.disk.lookup? location =
        later.disk.lookup? location) := by
  have validA : checkModelName a = .ok () := removes.2.1
  have home : directory = g.home a j := removes.eq_home word
  obtain ⟨validB, names, place⟩ := reported_in_home ran report member other
  have inHome : location = g.home b k ++ names := (eq_place_of_resolve found).trans place
  refine ⟨?_, ?_⟩
  · rw [home, inHome]
    exact home_prefix_iff validA validB names
  · intro apart
    rcases destroy_disk { g with options } kind a later with ⟨removed, same, gone⟩ | ⟨none, -⟩
    · obtain rfl := removes.unique same
      rw [gone, lookup?_removeBelow_outside apart]
    · exact absurd removes (none directory)

/-- A project with request handlers for posts. -/
def handlersDisk : Disk where
  entries := [(["p"], .directory), (["p", "app"], .directory), (["p", "app", "api"], .directory),
    (["p", "app", "api", "posts"], .directory),
    (["p", "app", "api", "posts", "route.ts"], .file (.text "// by hand\n"))]

/-- The actions of posts stay when the handlers of posts are removed. -/
theorem actions_spared :
    ∃ s' file, (blog.generate (.resource "post" [])).on { disk := handlersDisk } = (.ok (), s') ∧
      file ∈ s'.report.files ∧
      s'.disk.resolve (blog.settings.root.join file.path) =
        .ok ["p", "app", "posts", "actions.ts"] ∧
      blog.Removes s'.disk "api" "post" ["p", "app", "api", "posts"] ∧
      ¬ ["p".toList, "app".toList, "api".toList, "posts".toList] <+:
        ["p".toList, "app".toList, "posts".toList, "actions.ts".toList] ∧
      ((blog.destroy "api" "post").on s').2.disk.lookup? ["p", "app", "posts", "actions.ts"] =
        s'.disk.lookup? ["p", "app", "posts", "actions.ts"] := by
  have succeeds :
      ((blog.generate (.resource "post" [])).on { disk := handlersDisk }).1 = .ok () := by
    decide +kernel
  have found : ((blog.generate (.resource "post" [])).on { disk := handlersDisk }).2.disk.resolve
      (blog.settings.root.join "app/posts/actions.ts") =
        .ok ["p", "app", "posts", "actions.ts"] := by decide +kernel
  have removes : blog.Removes ((blog.generate (.resource "post" [])).on
      { disk := handlersDisk }).2.disk "api" "post" ["p", "app", "api", "posts"] :=
    ⟨rfl, by decide, .api, rfl, by decide +kernel, by decide +kernel⟩
  have recorded : ∃ file ∈ ((blog.generate (.resource "post" [])).on
      { disk := handlersDisk }).2.report.files, file.path = "app/posts/actions.ts".toList := by
    decide +kernel
  have removedNone : ((blog.generate (.resource "post" [])).on
      { disk := handlersDisk }).2.report.removed = [] := by decide +kernel
  rcases ran : (blog.generate (.resource "post" [])).on { disk := handlersDisk } with ⟨result, s'⟩
  rw [ran] at succeeds found removes recorded removedNone
  obtain rfl : result = .ok () := succeeds
  obtain ⟨file, member, path⟩ := recorded
  rw [← path] at found
  have report : s'.report = { ({} : Report) with files := [] ++ s'.report.files } := by
    rw [List.nil_append, ← removedNone]
  have other : file.path ≠ blog.schemaPath := by
    rw [path]
    decide
  have word : Removable.ofWord? "api".toList = some .api := by decide
  obtain ⟨inside, spared⟩ :=
    destroy_spares_others (g := blog) (k := .resource) word removes ran report member other found
  have apart := mt (fun above => (inside.1 above).2) (by decide)
  exact ⟨s', file, rfl, member, found, removes, apart, spared apart⟩

end Groundwork.Generator
