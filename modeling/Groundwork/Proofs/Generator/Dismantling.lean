import Groundwork.Proofs.Generator.Directory

/-!
# What removing a model's files leaves

The command that removes a model's files takes away one directory, with all that is in it, and
nothing else (`find?_destroy`). The schema file is meant to stay. It does unless the way to it comes
to that directory, which nothing but the settings prevents: the directory is named after the model,
and the schema may be kept in a directory of that name (`destroy_keeps_schema_iff`,
`destroy_loses_nested_schema`).
-/

namespace Groundwork.Generator

open Command Disk

variable {g : Generator} {kind name : Text} {location : Location}

/-- Run on the disk, the command that removes a model's files removes the directory at the
    location. -/
def Removes (g : Generator) (disk : Disk) (kind name : Text) (location : Location) : Prop :=
  g.options.dryRun = false ∧ checkModelName name = .ok () ∧
    ∃ removable, Removable.ofWord? kind = some removable ∧
      disk.resolve (g.settings.root.join (g.directoryOf (.ofName name) removable)) =
        .ok location ∧ disk.lookup? location = some .directory

/-- It removes one directory at most. -/
theorem Removes.unique {disk : Disk} {other : Location}
    (removes : g.Removes disk kind name location) (same : g.Removes disk kind name other) :
    other = location := by
  obtain ⟨-, -, removable, word, found, -⟩ := removes
  obtain ⟨-, -, removable', word', found', -⟩ := same
  rw [word] at word'
  obtain rfl := Option.some.inj word'
  rw [found] at found'
  exact (Except.ok.inj found').symm

/-- The directory is not the top. -/
theorem Removes.inside {disk : Disk} (removes : g.Removes disk kind name location) :
    location ≠ [] := by
  obtain ⟨-, valid, removable, -, found, -⟩ := removes
  rintro rfl
  cases getLast?_of_resolve valid found

/-- Removing a directory does to the disk what removing its tree does, if that succeeds, and nothing
    in a dry run. -/
theorem remove_disk (g : Generator) (path : Text) (work : Work) :
    (g.remove path work).2.disk =
      if g.options.dryRun then work.disk
      else (work.disk.removeTree (g.settings.root.join path)).toOption.getD work.disk := by
  generalize onDisk : g.settings.root.join path = full
  unfold remove
  rw [onDisk]
  dsimp only
  split
  · next failure refused =>
    have long : work.disk.resolve full = .error .nameTooLong := by
      by_contra short
      rw [checkNames_eq_ok_iff.2 short] at refused
      cases refused
    unfold removeTree
    rw [long]
    simp [Except.toOption]
  · cases present : work.disk.has full with
    | false =>
      have kept : (work.disk.removeTree full).toOption.getD work.disk = work.disk := by
        unfold has find? at present
        unfold removeTree
        split at present
        · rfl
        · rw [Option.isSome_eq_false_iff, Option.isNone_iff_eq_none] at present
          rw [present]
          rfl
      simp [kept]
    | true =>
      cases g.options.dryRun with
      | true => rfl
      | false =>
        simp only [Bool.not_true, Bool.false_eq_true, if_false]
        cases work.disk.removeTree full <;> rfl

/-- The command removes the directory of a known kind and an accepted name, and what is printed
    afterwards does not matter. -/
theorem dismantle_disk (g : Generator) (kind name : Text) (work : Work) :
    (g.dismantle kind name work).2.disk =
      match Removable.ofWord? kind, checkModelName name with
      | some removable, .ok _ => (g.remove (g.directoryOf (.ofName name) removable) work).2.disk
      | _, _ => work.disk := by
  unfold dismantle
  cases Removable.ofWord? kind with
  | none => rfl
  | some removable =>
    dsimp only
    cases checkModelName name with
    | error failure => rfl
    | ok _ =>
      dsimp only
      unfold Effect.andThen
      rcases g.remove (g.directoryOf (.ofName name) removable) work with ⟨_ | _, _⟩ <;> rfl

/-- A removed directory is gone from the disk, and if there is none to remove the disk stays. -/
theorem destroy_disk (g : Generator) (kind name : Text) (s : Session) :
    (∃ location, g.Removes s.disk kind name location ∧
      ((g.destroy kind name).on s).2.disk = s.disk.removeBelow location) ∨
    (∀ location, ¬ g.Removes s.disk kind name location) ∧
      ((g.destroy kind name).on s).2.disk = s.disk := by
  have does : ((g.destroy kind name).on s).2.disk = (g.dismantle kind name s.work).2.disk :=
    congrArg (fun run => run.2.disk) (destroy_does g kind name s)
  rw [does, dismantle_disk]
  cases word : Removable.ofWord? kind with
  | none =>
    refine .inr ⟨?_, rfl⟩
    rintro location ⟨-, -, removable, word', -⟩
    rw [word] at word'
    cases word'
  | some removable =>
    cases valid : checkModelName name with
    | error failure =>
      refine .inr ⟨?_, rfl⟩
      rintro location ⟨-, valid', -⟩
      rw [valid] at valid'
      cases valid'
    | ok _ =>
      dsimp only
      rw [remove_disk]
      cases dry : g.options.dryRun with
      | true =>
        refine .inr ⟨?_, rfl⟩
        rintro location ⟨wet, -⟩
        rw [dry] at wet
        cases wet
      | false =>
        rw [if_neg (by simp)]
        cases removed : s.work.disk.removeTree
            (g.settings.root.join (g.directoryOf (.ofName name) removable)) with
        | ok disk =>
          obtain ⟨location, found, stands, rfl⟩ := removeTree_eq_ok removed
          exact .inl ⟨location, ⟨dry, valid, removable, word, found, stands⟩, rfl⟩
        | error failure =>
          refine .inr ⟨?_, rfl⟩
          rintro location ⟨-, -, removable', word', found, stands⟩
          rw [word] at word'
          obtain rfl := Option.some.inj word'
          unfold removeTree at removed
          rw [Session.work_disk, found] at removed
          dsimp only at removed
          rw [stands] at removed
          cases removed

open Classical in
/-- What a path finds after a model's files were removed: nothing, if its way comes to the removed
    directory, and the same as before otherwise. -/
theorem find?_destroy (g : Generator) (kind name : Text) (s : Session) (path : Path) :
    ((g.destroy kind name).on s).2.disk.find? path =
      if ∃ location, g.Removes s.disk kind name location ∧ s.disk.Passes [] path.parts location
      then none else s.disk.find? path := by
  rcases destroy_disk g kind name s with ⟨location, removes, gone⟩ | ⟨removesNone, same⟩
  · rw [gone, find?_removeBelow _ _ removes.inside]
    congr 1
    rw [eq_iff_iff]
    constructor
    · exact fun passes => ⟨location, removes, passes⟩
    · rintro ⟨other, same, passes⟩
      exact removes.unique same ▸ passes
  · rw [same, if_neg]
    rintro ⟨location, removes, -⟩
    exact removesNone location removes

/-- Removing a model's files leaves the schema file with what it holds, and makes none where there
    was none, unless the way to a schema file comes to the removed directory. -/
theorem destroy_keeps_schema_iff (g : Generator) (kind name : Text) (s : Session) :
    (∀ content,
      ((g.destroy kind name).on s).2.disk.find? g.settings.schemaFile = some (.file content) ↔
        s.disk.find? g.settings.schemaFile = some (.file content)) ↔
    ¬ ∃ location content, g.Removes s.disk kind name location ∧
        s.disk.Passes [] g.settings.schemaFile.parts location ∧
          s.disk.find? g.settings.schemaFile = some (.file content) := by
  rw [find?_destroy]
  constructor
  · rintro keeps ⟨location, content, removes, passes, found⟩
    have kept := (keeps content).2 found
    rw [if_pos ⟨location, removes, passes⟩] at kept
    cases kept
  · intro safe content
    split
    · next lost =>
      obtain ⟨location, removes, passes⟩ := lost
      constructor
      · intro found
        cases found
      · intro found
        exact absurd ⟨location, content, removes, passes, found⟩ safe
    · exact Iff.rfl

/-- A project that keeps its schema among its source files, in a directory called `queries`. -/
def queriesDisk : Disk where
  entries := [(["p"], .directory), (["p", "src"], .directory),
    (["p", "src", "queries"], .directory),
    (["p", "src", "queries", "schema.ts"], .file (.text "// no tables yet\n"))]

/-- The settings of that project. -/
def queriesGenerator : Generator where
  settings := { root := ⟨"/", ["p"]⟩, appFolder := "src", dbFolder := "src/queries" }

/-- Removing the files of a model called `query` succeeds there, and the schema file is gone. -/
theorem destroy_loses_nested_schema :
    let run := (queriesGenerator.destroy "scaffold" "query").on { disk := queriesDisk }
    run.1 = .ok () ∧
      queriesDisk.find? queriesGenerator.settings.schemaFile =
        some (.file (.text "// no tables yet\n")) ∧
      run.2.disk.find? queriesGenerator.settings.schemaFile = none := by
  refine ⟨?_, by decide +kernel, ?_⟩
  · have does := destroy_does queriesGenerator "scaffold" "query" { disk := queriesDisk }
    have unmarked : '[' ∉ queriesGenerator.settings.dbFolder := by decide
    obtain ⟨text, shows⟩ := Console.schemaKept_shows unmarked
    unfold dismantle at does
    rw [shows] at does
    exact (Prod.mk.inj does).1
  · rw [find?_destroy, if_pos]
    refine ⟨["p".toList, "src".toList, "queries".toList], ⟨rfl, by decide, .scaffold, rfl, ?_, rfl⟩,
      ["p".toList, "src".toList, "queries".toList], _, by decide, by decide, List.prefix_rfl⟩
    decide +kernel

/-- Where no path climbs, the schema file stays unless it is kept in the model's directory. -/
theorem find?_destroy_of_apart (s : Session)
    (plain : "..".toList ∉ g.settings.schemaFile.parts)
    (apart : ∀ removable, "..".toList ∉
        (g.settings.root.join (g.directoryOf (.ofName name) removable)).parts ∧
      ¬ (g.settings.root.join (g.directoryOf (.ofName name) removable)).parts <+:
        g.settings.schemaFile.parts) :
    ((g.destroy kind name).on s).2.disk.find? g.settings.schemaFile =
      s.disk.find? g.settings.schemaFile := by
  rw [find?_destroy, if_neg]
  rintro ⟨location, ⟨-, -, removable, -, found, -⟩, passes⟩
  obtain ⟨noClimb, outside⟩ := apart removable
  have below := passes.below plain
  rw [eq_append_of_walk noClimb (checkNames_of_resolve found).2] at below
  exact outside below

end Groundwork.Generator
