import Groundwork.Proofs.Disk.Writing

/-!
# Beside a written file

A file that is written changes what stands at its own location and nowhere else, so every path that
leads past it, to its directory's other entries and below them, finds and reads what it found and
read before (`agree_of_write`).
-/

namespace Groundwork.Disk

variable {before after disk disk' : Disk} {path other : Path} {start location : Location}
  {base parts rest : List Text} {name first content : Text}

/-- The disks show the same where the path leads. -/
structure Agree (before after : Disk) (path : Path) : Prop where
  find?_eq : after.find? path = before.find? path
  read_eq : after.read path = before.read path

namespace Agree

theorem has_eq (agree : before.Agree after path) : after.has path = before.has path := by
  unfold has
  rw [agree.find?_eq]

/-- It is enough that the path leads to one location, and that the same entry stands there. -/
theorem of_resolve (leads : after.resolve path = before.resolve path)
    (stands : ∀ location, before.resolve path = .ok location →
      after.lookup? location = before.lookup? location) : before.Agree after path := by
  constructor
  · unfold find?
    rw [leads]
    cases found : before.resolve path with
    | error kind => rfl
    | ok location => exact stands location found
  · unfold read
    rw [leads]
    cases found : before.resolve path with
    | error kind => rfl
    | ok location =>
      dsimp only
      rw [stands location found]

end Agree

/-- Names that do not lead through a location are followed as if nothing were set there. -/
theorem walk_set_apart (entry : Entry) (inside : location ≠ []) (plain : "..".toList ∉ parts)
    (apart : ¬ location <+: start ++ parts) :
    (disk.set location entry).walk start parts = disk.walk start parts := by
  induction parts generalizing start with
  | nil => rfl
  | cons part parts ih =>
    have elsewhere : start ≠ location := by
      rintro rfl
      exact apart (List.prefix_append _ _)
    rw [List.mem_cons, not_or] at plain
    rw [walk, walk, lookup?_set _ _ _ _ inside, if_neg elsewhere]
    cases disk.lookup? start with
    | none => rfl
    | some stands =>
      cases stands with
      | file content => rfl
      | directory =>
        dsimp only
        rw [if_neg (Ne.symm plain.1)]
        have further : ¬ location <+: start ++ [part] ++ parts := by
          rwa [List.append_assoc, List.singleton_append]
        rw [ih plain.2 further]

/-- A file is written in a directory that exists already. -/
theorem write_eq_ok_of_parts (wrote : disk.write path content = .ok disk')
    (written : path.parts = base ++ [name]) (noClimb : name ≠ "..".toList) :
    ∃ mid, disk.walk [] base = .ok mid ∧ disk.lookup? (mid ++ [name]) ≠ some .directory ∧
      disk' = disk.set (mid ++ [name]) (.file (.text content)) := by
  obtain ⟨location, found, noDirectory, rfl⟩ := write_eq_ok wrote
  have walks := (checkNames_of_resolve found).2
  rw [written, walk_append] at walks
  cases climbs : disk.walk [] base with
  | error kind =>
    rw [climbs] at walks
    cases walks
  | ok mid =>
    rw [climbs] at walks
    have plain : "..".toList ∉ [name] := by
      rw [List.mem_singleton]
      exact Ne.symm noClimb
    obtain rfl := eq_append_of_walk plain walks
    exact ⟨mid, rfl, noDirectory, rfl⟩

/-- A file can be written in a directory where nothing has its name. -/
theorem write_eq_ok_of_absent {directory : Path} (stands : disk.isDirectory directory = true)
    (written : path.parts = directory.parts ++ [name]) (noClimb : name ≠ "..".toList)
    (checked : disk.checkNames path = .ok ()) (absent : disk.has path = false)
    (content : Text) : ∃ disk', disk.write path content = .ok disk' := by
  unfold isDirectory find? at stands
  cases found : disk.resolve directory with
  | error kind =>
    rw [found] at stands
    cases stands
  | ok mid =>
    rw [found] at stands
    have here : disk.lookup? mid = some .directory := of_decide_eq_true stands
    have leads : disk.resolve path
        = if nameLimit < byteCount name then .error .nameTooLong else .ok (mid ++ [name]) := by
      rw [resolve_eq_walk (length_of_checkNames checked), written, walk_append,
        (checkNames_of_resolve found).2]
      change disk.walk mid [name] = _
      rw [walk, here]
      dsimp only
      rw [if_neg noClimb]
      rfl
    by_cases long : nameLimit < byteCount name
    · rw [if_pos long] at leads
      exact absurd leads (checkNames_eq_ok_iff.1 checked)
    · rw [if_neg long] at leads
      have free : disk.lookup? (mid ++ [name]) = none := by
        unfold has find? at absent
        rw [leads] at absent
        exact Option.isNone_iff_eq_none.1 (by simpa using absent)
      refine ⟨disk.set (mid ++ [name]) (.file (.text content)), ?_⟩
      unfold write
      rw [leads]
      dsimp only
      rw [free]

/-- What stands beside a written file, and below that, is as before. -/
theorem agree_of_write (wrote : disk.write path content = .ok disk')
    (written : path.parts = base ++ [name]) (noClimb : name ≠ "..".toList)
    (beside : other.parts = base ++ first :: rest) (plain : "..".toList ∉ first :: rest)
    (apart : name ≠ first) : disk.Agree disk' other := by
  obtain ⟨mid, leads, noDirectory, rfl⟩ := write_eq_ok_of_parts wrote written noClimb
  have inside := ne_top noDirectory
  have past : ¬ mid ++ [name] <+: mid ++ first :: rest := by
    rw [List.prefix_append_right_inj, List.cons_prefix_cons]
    exact fun begins => apart begins.1
  have follows (after : Disk) (climbs : after.walk [] base = .ok mid) :
      after.walk [] other.parts = after.walk mid (first :: rest) := by
    rw [beside, walk_append, climbs]
    rfl
  have same : (disk.set (mid ++ [name]) (.file (.text content))).walk [] other.parts
      = disk.walk [] other.parts := by
    rw [follows _ ((keeps_set noDirectory).walk leads), follows _ leads,
      walk_set_apart _ inside plain past]
  refine .of_resolve ?_ ?_
  · unfold resolve
    rw [same]
  · intro location found
    have walks := (checkNames_of_resolve found).2
    rw [follows _ leads] at walks
    obtain rfl := eq_append_of_walk plain walks
    have elsewhere : mid ++ first :: rest ≠ mid ++ [name] := by
      intro equal
      exact past (equal ▸ List.prefix_refl _)
    rw [lookup?_set _ _ _ _ inside, if_neg elsewhere]

end Groundwork.Disk
