import Groundwork.Generator.Model
import Groundwork.Proofs.Console.Escape
import Groundwork.Proofs.Disk.Reading

/-!
# Outcomes of commands

A command that works on a session ends with a result and another session. What a file command does
to the disk is told at once (`Generator.writeFile_on`): it meets a fault of the disk, or it keeps a
file, or it stores the text.
-/

namespace Groundwork

/-- The failure comes from the disk or from a path that no disk takes. -/
def Failure.isDiskFault : Failure → Bool
  | disk _ _ | nulInPath => true
  | _ => false

namespace Command

variable {α β : Type} {s : Session}

/-- The result of a command on a session, and the session after it. -/
def on (command : Command α) (s : Session) : Except Failure α × Session := command.run.run s

theorem on_bind (first : Command α) (next : α → Command β) (s : Session) :
    (first >>= next).on s = match first.on s with
      | (.ok a, s') => (next a).on s'
      | (.error failure, s') => (.error failure, s') := by
  unfold on
  rw [ExceptT.run_bind, StateT.run_bind]
  rcases first.run.run s with ⟨_ | _, _⟩ <;> rfl

@[simp] theorem on_pure (a : α) : (pure a : Command α).on s = (.ok a, s) := rfl

@[simp] theorem on_get : (get : Command Session).on s = (.ok s, s) := rfl

@[simp] theorem on_attempt (result : Except Failure α) : (attempt result).on s = (result, s) := by
  cases result <;> rfl

@[simp] theorem on_setDisk (disk : Disk) : (setDisk disk).on s = (.ok (), { s with disk }) := rfl

@[simp] theorem on_recordFile (file : GeneratedFile) : (recordFile file).on s =
    (.ok (), { s with report := { s.report with files := s.report.files ++ [file] } }) := rfl

/-- A notice that shows is printed. -/
theorem on_notify {notice : Console.Notice} {text : Text} (shows : notice.render = .ok text) :
    (notify notice).on s = (.ok (), { s with output := s.output ++ text }) := by
  unfold notify
  rw [on_bind, on_attempt, shows]
  rfl

end Command

/-! ## Storing a file -/

namespace Disk

theorem isDiskFault_of_makeDirectoriesUp {disk disk' : Disk} {anchor : Text} {parts : List Text}
    {failure : Failure} (failed : disk.makeDirectoriesUp anchor parts = (disk', .error failure)) :
    failure.isDiskFault = true := by
  induction parts generalizing disk' with
  | nil => simp [makeDirectoriesUp] at failed
  | cons part above ih =>
    unfold makeDirectoriesUp at failed
    dsimp only at failed
    split at failed
    · cases failed
    · split at failed
      · next higher =>
        obtain ⟨-, same⟩ := Prod.mk.inj failed
        rw [Except.error.inj same] at higher
        exact ih higher
      · split at failed
        · cases failed
        · obtain ⟨-, same⟩ := Prod.mk.inj failed
          rw [← Except.error.inj same]
          rfl
    · obtain ⟨-, same⟩ := Prod.mk.inj failed
      rw [← Except.error.inj same]
      rfl

theorem isDiskFault_of_write {disk : Disk} {path : Path} {t : Text} {failure : Failure}
    (failed : disk.write path t = .error failure) : failure.isDiskFault = true := by
  unfold write at failed
  split at failed
  · rw [← Except.error.inj failed]
    rfl
  · split at failed
    · rw [← Except.error.inj failed]
      rfl
    · cases failed

theorem isDiskFault_of_removeTree {disk : Disk} {path : Path} {failure : Failure}
    (failed : disk.removeTree path = .error failure) : failure.isDiskFault = true := by
  unfold removeTree at failed
  split at failed
  · rw [← Except.error.inj failed]
    rfl
  · split at failed
    · rw [← Except.error.inj failed]
      rfl
    · rw [← Except.error.inj failed]
      rfl
    · cases failed

theorem isDiskFault_of_checkNames {disk : Disk} {path : Path} {failure : Failure}
    (failed : disk.checkNames path = .error failure) : failure.isDiskFault = true := by
  unfold checkNames at failed
  split at failed
  · rw [← Except.error.inj failed]
    rfl
  · cases failed

end Disk

namespace Generator

open Command

variable {g : Generator} {disk disk' : Disk} {path : Path} {content : Text}

theorem isDiskFault_of_store {failure : Failure}
    (failed : store disk path content = (disk', .error failure)) : failure.isDiskFault = true := by
  unfold store at failed
  split at failed
  · obtain ⟨-, same⟩ := Prod.mk.inj failed
    rw [← Except.error.inj same]
    rfl
  · split at failed
    · next directories =>
      obtain ⟨-, same⟩ := Prod.mk.inj failed
      rw [← Except.error.inj same]
      exact Disk.isDiskFault_of_makeDirectoriesUp directories
    · split at failed
      · cases failed
      · next wrote =>
        obtain ⟨-, same⟩ := Prod.mk.inj failed
        rw [← Except.error.inj same]
        exact Disk.isDiskFault_of_write wrote

/-- The path of the schema file has the same names as the path that it is written to. -/
theorem parts_schemaFile (nonempty : g.settings.dbFolder ≠ []) :
    g.settings.schemaFile.parts = (g.settings.root.join g.schemaPath).parts :=
  Path.parts_join_join g.settings.root nonempty rfl

/-- Without the name of a directory the schema file is written at the top. -/
theorem parts_schemaPath_of_empty (empty : g.settings.dbFolder = []) :
    (g.settings.root.join g.schemaPath).parts = ["schema.ts".toList] := by
  have absolute : g.settings.root.join "/schema.ts".toList = .ofText "/schema.ts".toList := by
    unfold Path.join
    rw [if_neg (by decide)]
  unfold schemaPath
  rw [empty, List.nil_append, absolute]
  decide

/-- A file that was stored is found through every path with the same names. -/
theorem find?_of_store (stored : store disk path content = (disk', .ok ())) {other : Path}
    (same : other.parts = path.parts) (short : Disk.byteCount other.render ≤ Disk.pathLimit) :
    disk'.find? other = some (.file (.text content)) := by
  unfold store at stored
  split at stored
  · cases stored
  · split at stored
    · cases stored
    · split at stored
      · next wrote =>
        obtain ⟨rfl, -⟩ := Prod.mk.inj stored
        exact Disk.find?_of_write wrote same short
      · cases stored

/-- A file that was stored is read through every path with the same names. -/
theorem read_of_store (stored : store disk path content = (disk', .ok ())) {other : Path}
    (same : other.parts = path.parts) (short : Disk.byteCount other.render ≤ Disk.pathLimit)
    (noReturn : '\r' ∉ content) : disk'.read other = .ok content := by
  rw [Disk.read_of_find? (find?_of_store stored same short),
    Text.normaliseLineEnds_of_not_mem noReturn]

/-- Writing a file meets a fault of the disk, or the file is kept, or its text is stored. -/
theorem writeFile_on (wet : g.options.dryRun = false) (path content : Text) (merged : Bool)
    (s : Session) :
    (∃ failure s', (g.writeFile path content merged).on s = (.error failure, s') ∧
      failure.isDiskFault = true) ∨
    (s.disk.checkNames (g.settings.root.join path) = .ok () ∧
      ∃ s', (g.writeFile path content merged).on s = (.ok (), s') ∧
        if g.fileAction s.disk path merged = .skip then s'.disk = s.disk
        else store s.disk (g.settings.root.join path) content = (s'.disk, .ok ())) := by
  unfold writeFile
  dsimp only
  rw [on_bind, on_get]
  dsimp only
  rw [on_bind, on_attempt]
  cases checked : s.disk.checkNames (g.settings.root.join path) with
  | error failure => exact .inl ⟨failure, s, rfl, Disk.isDiskFault_of_checkNames checked⟩
  | ok _ =>
    obtain ⟨text, shows⟩ := Console.render_action false (g.fileAction s.disk path merged) path
    dsimp only
    rw [on_bind, on_get]
    dsimp only
    rw [on_bind, wet, on_notify shows]
    dsimp only
    by_cases kept : g.fileAction s.disk path merged = .skip
    · right
      rw [if_neg (by simp [kept]), on_recordFile]
      refine ⟨rfl, _, rfl, ?_⟩
      rw [if_pos kept]
    · rw [if_pos (by simp [kept]), on_bind, on_get]
      dsimp only
      rw [on_bind, on_setDisk]
      dsimp only
      rw [on_bind, on_attempt]
      rcases stored : store s.disk (g.settings.root.join path) content with ⟨disk, failure | _⟩
      · exact .inl ⟨failure, _, rfl, isDiskFault_of_store stored⟩
      · right
        refine ⟨rfl, _, rfl, ?_⟩
        rw [if_neg kept]

end Generator

end Groundwork
