import Groundwork.Proofs.Disk.Destination

/-!
# What a path finds after a removal

Removing a directory takes away what stands at or below it, so a path finds something else
afterwards only if the way through its names comes there (`find?_removeBelow`). Where the way leads
in the end is not enough: a path may lead through the directory and climb out of it again.
-/

namespace Groundwork.Disk

variable {disk : Disk} {path : Path} {start location other : Location} {parts : List Text}

/-- The way through the names comes to the location, or to a place below it. -/
def Passes (disk : Disk) (start : Location) (parts : List Text) (location : Location) : Prop :=
  ∃ first other, first <+: parts ∧ disk.walk start first = .ok other ∧ location <+: other

theorem Passes.of_start (below : location <+: start) : disk.Passes start parts location :=
  ⟨[], start, List.nil_prefix, rfl, below⟩

theorem passes_nil_iff : disk.Passes start [] location ↔ location <+: start := by
  constructor
  · rintro ⟨first, other, shorter, leads, below⟩
    obtain rfl := List.prefix_nil.1 shorter
    obtain rfl := Except.ok.inj leads
    exact below
  · exact .of_start

/-- The way from a place outside comes to the location after the first step, or not at all. -/
theorem passes_cons_iff {part : Text} (outside : ¬ location <+: start) :
    disk.Passes start (part :: parts) location ↔
      disk.lookup? start = some .directory ∧ byteCount part ≤ nameLimit ∧
        disk.Passes (if part = "..".toList then start.dropLast else start ++ [part]) parts
          location := by
  constructor
  · rintro ⟨first, other, shorter, leads, below⟩
    cases first with
    | nil =>
      obtain rfl := Except.ok.inj leads
      exact absurd below outside
    | cons step first =>
      obtain ⟨rfl, later⟩ := List.cons_prefix_cons.1 shorter
      obtain ⟨stands, short, rest⟩ := walk_cons_eq_ok leads
      exact ⟨stands, short, first, other, later, rest, below⟩
  · rintro ⟨stands, short, first, other, shorter, leads, below⟩
    refine ⟨part :: first, other, List.cons_prefix_cons.2 ⟨rfl, shorter⟩, ?_, below⟩
    rw [walk, stands]
    dsimp only
    rw [if_neg (by omega)]
    exact leads

/-- A path that does not climb comes to a place exactly if it leads below it. -/
theorem Passes.below (passes : disk.Passes start parts location)
    (plain : "..".toList ∉ parts) : location <+: start ++ parts := by
  obtain ⟨first, other, shorter, leads, below⟩ := passes
  have noClimb : "..".toList ∉ first := fun member => plain (shorter.subset member)
  rw [eq_append_of_walk noClimb leads] at below
  exact below.trans ((List.prefix_append_right_inj start).2 shorter)

/-! ## Removing -/

theorem lookup?_removeBelow_inside (inside : location ≠ []) (below : location <+: other) :
    (disk.removeBelow location).lookup? other = none := by
  have nonempty : other ≠ [] := by
    rintro rfl
    exact inside (List.prefix_nil.1 below)
  rw [lookup?_removeBelow _ _ _ nonempty, if_pos]
  exact List.isPrefixOf_iff_prefix.2 below

theorem lookup?_removeBelow_outside (apart : ¬ location <+: other) :
    (disk.removeBelow location).lookup? other = disk.lookup? other := by
  cases other with
  | nil => rfl
  | cons part parts =>
    rw [lookup?_removeBelow _ _ _ (List.cons_ne_nil _ _), if_neg]
    exact mt List.isPrefixOf_iff_prefix.1 apart

/-- What the names lead to. -/
def entryAt? (disk : Disk) (start : Location) (parts : List Text) : Option Entry :=
  match disk.walk start parts with
  | .error _ => none
  | .ok location => disk.lookup? location

theorem find?_eq_entryAt? (short : byteCount path.render ≤ pathLimit) :
    disk.find? path = disk.entryAt? [] path.parts := by
  unfold find?
  rw [resolve_eq_walk short]
  rfl

theorem find?_eq_none_of_long (long : pathLimit < byteCount path.render) :
    disk.find? path = none := by
  unfold find? resolve
  rw [if_pos long]

/-- Names whose way comes to the removed directory lead to nothing. -/
theorem entryAt?_removeBelow_of_passes (inside : location ≠ [])
    (passes : disk.Passes start parts location) :
    (disk.removeBelow location).entryAt? start parts = none := by
  induction parts generalizing start with
  | nil => exact lookup?_removeBelow_inside inside (passes_nil_iff.1 passes)
  | cons part parts ih =>
    unfold entryAt? walk
    by_cases below : location <+: start
    · rw [lookup?_removeBelow_inside inside below]
    · obtain ⟨stands, short, later⟩ := (passes_cons_iff below).1 passes
      rw [lookup?_removeBelow_outside below, stands]
      dsimp only
      rw [if_neg (by omega)]
      exact ih later

/-- Names whose way does not come to the removed directory lead to what they led to. -/
theorem entryAt?_removeBelow_of_not_passes (avoids : ¬ disk.Passes start parts location) :
    (disk.removeBelow location).entryAt? start parts = disk.entryAt? start parts := by
  induction parts generalizing start with
  | nil => exact lookup?_removeBelow_outside (mt passes_nil_iff.2 avoids)
  | cons part parts ih =>
    have outside : ¬ location <+: start := fun below => avoids (.of_start below)
    rw [passes_cons_iff outside] at avoids
    unfold entryAt? walk
    rw [lookup?_removeBelow_outside outside]
    cases stands : disk.lookup? start with
    | none => rfl
    | some entry =>
      cases entry with
      | file content => rfl
      | directory =>
        dsimp only
        by_cases long : nameLimit < byteCount part
        · rw [if_pos long, if_pos long]
        · rw [if_neg long, if_neg long]
          exact ih fun later => avoids ⟨stands, by omega, later⟩

open Classical in
/-- After a removal a path finds nothing if its way comes to the removed directory, and what it
    found before otherwise. -/
theorem find?_removeBelow (disk : Disk) (path : Path) (inside : location ≠ []) :
    (disk.removeBelow location).find? path =
      if disk.Passes [] path.parts location then none else disk.find? path := by
  by_cases short : byteCount path.render ≤ pathLimit
  · rw [find?_eq_entryAt? short, find?_eq_entryAt? short]
    split
    · next passes => exact entryAt?_removeBelow_of_passes inside passes
    · next avoids => exact entryAt?_removeBelow_of_not_passes avoids
  · rw [find?_eq_none_of_long (by omega), find?_eq_none_of_long (by omega), ite_self]

/-- A removed tree was a directory, and it is gone with all that is below it. -/
theorem removeTree_eq_ok {disk' : Disk} (removed : disk.removeTree path = .ok disk') :
    ∃ location, disk.resolve path = .ok location ∧ disk.lookup? location = some .directory ∧
      disk' = disk.removeBelow location := by
  unfold removeTree at removed
  split at removed
  · cases removed
  · next location found =>
    split at removed
    · cases removed
    · cases removed
    · next stands => exact ⟨location, found, stands, (Except.ok.inj removed).symm⟩

/-- Names that end without climbing lead to a place with the last name. -/
theorem getLast?_of_walk {last : Text} (named : parts.getLast? = some last)
    (plain : last ≠ "..".toList) (leads : disk.walk start parts = .ok location) :
    location.getLast? = some last := by
  obtain ⟨front, rfl⟩ := List.getLast?_eq_some_iff.1 named
  rw [walk_append] at leads
  cases onTheWay : disk.walk start front with
  | error fault =>
    rw [onTheWay] at leads
    cases leads
  | ok mid =>
    rw [onTheWay] at leads
    rw [eq_append_of_walk (by simpa using Ne.symm plain) leads, List.getLast?_concat]

end Groundwork.Disk
