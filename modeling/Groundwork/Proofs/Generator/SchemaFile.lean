import Groundwork.Proofs.Generator.Placement

/-!
# The schema file on the disk

The schema file is read by the path of its directory and written by the path of the file. The two
paths have the same names, unless the directory's name is empty: then the file is written at the top
of the disk, and it is read back only where the project's directory is the top (`ReadsBack`). After
`Generator.model` the schema that was drafted is read back as it is (`read_of_model`), or the
project goes on without a schema file (`has_of_model`).
-/

namespace Groundwork

open Disk

/-- The schema file of a project is read from where it is written. -/
def Settings.ReadsBack (settings : Settings) (disk : Disk) : Prop :=
  settings.dbFolder = [] → disk.resolve settings.schemaFile = .ok ["schema.ts".toList]

namespace Generator

variable {g : Generator} {disk disk' : Disk} {content : Text}

/-- The path by which the schema file is written. -/
def schemaTarget (g : Generator) : Path := g.settings.root.join g.schemaPath

theorem parts_schemaTarget (top : g.settings.dbFolder = []) :
    g.schemaTarget.parts = ["schema.ts".toList] := parts_schemaPath_of_empty top

/-- What is found by both paths is the same. -/
theorem find?_schemaTarget (reads : g.settings.ReadsBack disk)
    (checked : disk.checkNames g.settings.schemaFile = .ok ())
    (checkedTarget : disk.checkNames g.schemaTarget = .ok ()) :
    disk.find? g.schemaTarget = disk.find? g.settings.schemaFile := by
  have short := length_of_checkNames checkedTarget
  by_cases top : g.settings.dbFolder = []
  · unfold find?
    rw [reads top, resolve_eq_walk short, parts_schemaTarget top]
    rfl
  · exact (find?_congr (parts_schemaFile top) short (length_of_checkNames checked)).symm

/-- Elsewhere than at the top nothing changes when the schema file is written there. -/
theorem lookup?_of_store_top (top : g.settings.dbFolder = [])
    (stored : store disk g.schemaTarget content = (disk', .ok ())) (location : Location) :
    disk'.lookup? location = if location = ["schema.ts".toList] then some (.file (.text content))
      else disk.lookup? location := by
  have leads : disk.Leads g.schemaTarget ["schema.ts".toList] := by
    rw [← parts_schemaTarget top]
    exact .of_plain (by rw [parts_schemaTarget top]; decide)
  have wrote := wrote_of_store leads stored
  split
  · next here =>
    rw [here]
    exact wrote.holds _ (List.mem_singleton_self _)
  · next elsewhere =>
    rcases wrote.elsewhere location (by simpa using Ne.symm elsewhere) with
      same | ⟨⟨file, member, above⟩, absent, -⟩
    · exact same
    · -- above the top there is nothing but the top, which stands
      rw [List.mem_singleton.1 member] at above
      have inside : location <+: [] ++ ["schema.ts".toList] := above
      rcases List.prefix_concat_iff.1 inside with same | higher
      · exact absurd same elsewhere
      · rw [List.prefix_nil.1 higher] at absent
        cases absent

/-- A schema that is written is found where it is read. -/
theorem find?_of_store_schema (reads : g.settings.ReadsBack disk)
    (checked : disk.checkNames g.settings.schemaFile = .ok ())
    (stored : store disk g.schemaTarget content = (disk', .ok ())) :
    g.settings.ReadsBack disk' ∧
      disk'.find? g.settings.schemaFile = some (.file (.text content)) := by
  have keeps := keeps_of_store stored
  refine ⟨fun top => keeps.resolve (reads top), ?_⟩
  by_cases top : g.settings.dbFolder = []
  · unfold find?
    rw [keeps.resolve (reads top)]
    dsimp only
    rw [lookup?_of_store_top top stored, if_pos rfl]
  · exact find?_of_store stored (parts_schemaFile top) (length_of_checkNames checked)

/-- A schema that is written elsewhere leaves the project without a schema file. -/
theorem has_of_store_schema (apart : ¬ g.settings.ReadsBack disk)
    (absent : disk.has g.settings.schemaFile = false)
    (stored : store disk g.schemaTarget content = (disk', .ok ())) :
    ¬ g.settings.ReadsBack disk' ∧ disk'.has g.settings.schemaFile = false := by
  obtain ⟨top, elsewhere⟩ := Classical.not_imp.1 apart
  have lookups := lookup?_of_store_top top stored
  have back : disk'.Keeps disk := by
    intro location directory
    rw [lookups] at directory
    split at directory
    · cases directory
    · exact directory
  refine ⟨fun reads => elsewhere (back.resolve (reads top)), ?_⟩
  unfold has find? at absent ⊢
  split
  · rfl
  · next location found =>
    have before := back.resolve found
    have other : location ≠ ["schema.ts".toList] := by
      rintro rfl
      exact elsewhere before
    rw [before] at absent
    rwa [lookups, if_neg other]

/-! ## Writing a model -/

variable {name : Text} {tokens : List Text} {draft : Draft} {s : Session}

/-- What the schema's draft holds: a schema with the model only, or the model merged into the schema
    that stands. -/
theorem content_of_schemaDraft (drafted : g.schemaDraft disk name tokens = .ok draft) :
    ∃ names fields, g.named name tokens = .ok (names, fields) ∧
      if disk.has g.settings.schemaFile then
        ∃ old, disk.read g.settings.schemaFile = .ok old ∧
          g.mergedSchema old names fields = .ok draft.content
      else draft.content = Schema.create names fields g.settings.dialect g.options := by
  obtain ⟨⟨names, fields⟩, found, rest⟩ := bind_eq_ok_iff.1 drafted
  obtain ⟨_, -, rest⟩ := bind_eq_ok_iff.1 rest
  refine ⟨names, fields, found, ?_⟩
  cases present : disk.has g.settings.schemaFile with
  | false =>
    rw [present] at rest
    obtain rfl := Except.ok.inj rest
    rfl
  | true =>
    rw [present] at rest
    obtain ⟨old, stands, rest⟩ := bind_eq_ok_iff.1 rest
    obtain ⟨text, merged, rest⟩ := bind_eq_ok_iff.1 rest
    obtain rfl := Except.ok.inj rest
    exact ⟨old, stands, merged⟩

/-- A model that was written was drafted, and its draft was put on the disk. -/
theorem put_of_model (done : ((g.model name tokens).on s).1 = .ok ()) :
    ∃ draft, g.schemaDraft s.disk name tokens = .ok draft ∧
      g.put draft s.work = (.ok (), ((g.model name tokens).on s).2.work) := by
  obtain ⟨drafts, planned, carried⟩ := (g.model_follows name tokens s).exists_plan done
  obtain ⟨draft, drafted, alone⟩ := bind_eq_ok_iff.1 planned
  obtain rfl := Except.ok.inj alone
  have single : g.carryOut [draft] = g.put draft := Effect.andThen_ok _
  exact ⟨draft, drafted, single ▸ carried⟩

/-- A dry run leaves the disk as it is. -/
theorem disk_of_model_dry (dry : g.options.dryRun = true)
    (done : ((g.model name tokens).on s).1 = .ok ()) :
    ((g.model name tokens).on s).2.disk = s.disk := by
  obtain ⟨draft, -, put⟩ := put_of_model done
  rw [put_dry dry] at put
  split at put
  · cases (Prod.mk.inj put).1
  · rw [← Session.work_disk, ← (Prod.mk.inj put).2]
    rfl

/-- After a model was written its schema is found. -/
theorem find?_of_model (reads : g.settings.ReadsBack s.disk) (wet : g.options.dryRun = false)
    (drafted : g.schemaDraft s.disk name tokens = .ok draft)
    (done : ((g.model name tokens).on s).1 = .ok ()) :
    g.settings.ReadsBack ((g.model name tokens).on s).2.disk ∧
      ((g.model name tokens).on s).2.disk.find? g.settings.schemaFile =
        some (.file (.text draft.content)) := by
  obtain ⟨other, same, put⟩ := put_of_model done
  obtain rfl := Except.ok.inj (drafted.symm.trans same)
  obtain ⟨path, merged, checked⟩ := draft_of_schemaDraft drafted
  obtain ⟨checkedTarget, -, effect⟩ := put_wet wet put
  have target : g.target draft = g.schemaTarget := by
    unfold target schemaTarget
    rw [path]
  rw [target] at checkedTarget effect
  have found : s.disk.has (g.target draft) = s.disk.has g.settings.schemaFile := by
    rw [target]
    exact congrArg Option.isSome (find?_schemaTarget reads checked checkedTarget)
  -- a file that stands is merged, so it is not kept
  have action : (g.entry s.disk draft).action ≠ .skip := by
    unfold entry fileAction
    rw [show g.settings.root.join draft.path = g.target draft from rfl, found, merged]
    cases s.disk.has g.settings.schemaFile <;> simp
  rw [Session.work_disk, if_neg action] at effect
  exact find?_of_store_schema reads checked effect

/-- After a model was written its schema is read back. -/
theorem read_of_model (reads : g.settings.ReadsBack s.disk) (wet : g.options.dryRun = false)
    (drafted : g.schemaDraft s.disk name tokens = .ok draft) (noReturn : '\r' ∉ draft.content)
    (done : ((g.model name tokens).on s).1 = .ok ()) :
    g.settings.ReadsBack ((g.model name tokens).on s).2.disk ∧
      ((g.model name tokens).on s).2.disk.read g.settings.schemaFile = .ok draft.content := by
  obtain ⟨back, found⟩ := find?_of_model reads wet drafted done
  exact ⟨back, by rw [read_of_find? found, Text.normaliseLineEnds_of_not_mem noReturn]⟩

/-- Where the schema is not read back, the project has none afterwards. -/
theorem has_of_model (apart : ¬ g.settings.ReadsBack s.disk)
    (absent : s.disk.has g.settings.schemaFile = false)
    (done : ((g.model name tokens).on s).1 = .ok ()) :
    ¬ g.settings.ReadsBack ((g.model name tokens).on s).2.disk ∧
      ((g.model name tokens).on s).2.disk.has g.settings.schemaFile = false := by
  cases dryRun : g.options.dryRun with
  | true =>
    rw [disk_of_model_dry dryRun done]
    exact ⟨apart, absent⟩
  | false =>
    obtain ⟨draft, drafted, put⟩ := put_of_model done
    obtain ⟨path, -, -⟩ := draft_of_schemaDraft drafted
    obtain ⟨-, -, effect⟩ := put_wet dryRun put
    split at effect
    · rw [Session.work_disk] at effect
      rw [effect]
      exact ⟨apart, absent⟩
    · rw [show g.target draft = g.schemaTarget by unfold target schemaTarget; rw [path]] at effect
      exact has_of_store_schema apart absent effect

end Generator

end Groundwork
