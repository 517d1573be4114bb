import Groundwork.Disk.Lemmas
import Groundwork.Proofs.Disk.Reading
import Mathlib.Data.List.Induction

/-!
# Destinations

Where a path leads before the directories on the way exist. `Leads` says that the names of a path
that climb back can be followed on the disk, and the names after them need not be there yet. Then
the location does not depend on what is made later (`Leads.mono`), and on a disk that is one tree
the path has an entry exactly if the location has one (`Leads.has_eq`).
-/

namespace Groundwork.Disk

variable {disk before after : Disk} {path : Path} {start location other : Location}
  {parts : List Text}

/-! ## Following names -/

theorem walk_append (disk : Disk) (start : Location) (first rest : List Text) :
    disk.walk start (first ++ rest) =
      (disk.walk start first).bind fun mid => disk.walk mid rest := by
  induction first generalizing start with
  | nil => rfl
  | cons part parts ih =>
    rw [List.cons_append, walk, walk]
    cases disk.lookup? start with
    | none => rfl
    | some entry =>
      cases entry with
      | file content => rfl
      | directory =>
        dsimp only
        by_cases long : nameLimit < byteCount part
        · rw [if_pos long, if_pos long]
          rfl
        · rw [if_neg long, if_neg long]
          exact ih _

/-- What a step to another name needs and where it leads. -/
theorem walk_cons_eq_ok {part : Text} (leads : disk.walk start (part :: parts) = .ok location) :
    disk.lookup? start = some .directory ∧ byteCount part ≤ nameLimit ∧
      disk.walk (if part = "..".toList then start.dropLast else start ++ [part]) parts
        = .ok location := by
  rw [walk] at leads
  cases stands : disk.lookup? start with
  | none =>
    rw [stands] at leads
    cases leads
  | some entry =>
    rw [stands] at leads
    cases entry with
    | file content => cases leads
    | directory =>
      dsimp only at leads
      by_cases long : nameLimit < byteCount part
      · rw [if_pos long] at leads
        cases leads
      · rw [if_neg long] at leads
        exact ⟨rfl, by omega, leads⟩

/-- Names that do not climb back lead below the start. -/
theorem eq_append_of_walk (plain : "..".toList ∉ parts)
    (leads : disk.walk start parts = .ok location) : location = start ++ parts := by
  induction parts generalizing start with
  | nil =>
    rw [List.append_nil]
    exact (Except.ok.inj leads).symm
  | cons part parts ih =>
    rw [List.mem_cons, not_or] at plain
    obtain ⟨-, -, rest⟩ := walk_cons_eq_ok leads
    rw [if_neg (Ne.symm plain.1)] at rest
    rw [ih plain.2 rest, List.append_assoc, List.singleton_append]

/-! ## Directories that stay -/

/-- Every directory is still a directory afterwards. -/
def Keeps (before after : Disk) : Prop :=
  ∀ location, before.lookup? location = some .directory → after.lookup? location = some .directory

theorem Keeps.refl (disk : Disk) : disk.Keeps disk := fun _ stands => stands

theorem Keeps.trans {mid : Disk} (first : before.Keeps mid) (second : mid.Keeps after) :
    before.Keeps after := fun location stands => second location (first location stands)

/-- A path is followed in the same way once more directories exist. -/
theorem Keeps.walk (keeps : before.Keeps after)
    (leads : before.walk start parts = .ok location) : after.walk start parts = .ok location := by
  induction parts generalizing start with
  | nil => exact leads
  | cons part parts ih =>
    obtain ⟨stands, short, rest⟩ := walk_cons_eq_ok leads
    rw [Disk.walk, keeps start stands]
    dsimp only
    rw [if_neg (by omega)]
    exact ih rest

theorem Keeps.resolve (keeps : before.Keeps after) (leads : before.resolve path = .ok location) :
    after.resolve path = .ok location := by
  obtain ⟨short, leads⟩ := checkNames_of_resolve leads
  rw [resolve_eq_walk short]
  exact keeps.walk leads

/-- A name that is too long is still reached. -/
theorem Keeps.walk_nameTooLong (keeps : before.Keeps after)
    (long : before.walk start parts = .error .nameTooLong) :
    after.walk start parts = .error .nameTooLong := by
  induction parts generalizing start with
  | nil => cases long
  | cons part parts ih =>
    rw [Disk.walk] at long ⊢
    cases stands : before.lookup? start with
    | none =>
      rw [stands] at long
      cases long
    | some entry =>
      rw [stands] at long
      cases entry with
      | file content => cases long
      | directory =>
        rw [keeps start stands]
        dsimp only at long ⊢
        by_cases tooLong : nameLimit < byteCount part
        · rw [if_pos tooLong]
        · rw [if_neg tooLong] at long ⊢
          exact ih long

/-- Every refusal of a path's names. -/
theorem checkNames_eq (disk : Disk) (path : Path) :
    disk.checkNames path = .ok () ∨ disk.checkNames path = .error (fault path .nameTooLong) := by
  unfold checkNames
  split
  · exact .inr rfl
  · exact .inl rfl

theorem checkNames_eq_ok_iff :
    disk.checkNames path = .ok () ↔ disk.resolve path ≠ .error .nameTooLong := by
  unfold checkNames
  split
  · next long => simp [long]
  · next fine =>
    constructor
    · intro _ long
      exact fine long
    · intro _
      rfl

/-- What can be asked later could be asked before. -/
theorem Keeps.checkNames (keeps : before.Keeps after) (checked : after.checkNames path = .ok ()) :
    before.checkNames path = .ok () := by
  have short := length_of_checkNames checked
  rw [checkNames_eq_ok_iff, resolve_eq_walk short] at checked ⊢
  intro long
  exact checked (keeps.walk_nameTooLong long)

/-! ## One tree -/

/-- Every entry stands in a directory. -/
def WellFormed (disk : Disk) : Prop :=
  ∀ entry ∈ disk.entries, disk.lookup? entry.1.dropLast = some .directory

instance (disk : Disk) : Decidable disk.WellFormed :=
  inferInstanceAs (Decidable (∀ entry ∈ disk.entries, _))

/-- The top is a directory. -/
theorem ne_top (noDirectory : disk.lookup? location ≠ some .directory) : location ≠ [] := by
  rintro rfl
  exact noDirectory rfl

/-- What is not at the top is one of the entries. -/
theorem mem_of_lookup? {entry : Entry} (inside : location ≠ [])
    (stands : disk.lookup? location = some entry) : (location, entry) ∈ disk.entries := by
  rw [lookup?_eq inside, List.lookup_eq_some_iff] at stands
  obtain ⟨front, back, split, -⟩ := stands
  rw [split]
  exact List.mem_append_right _ List.mem_cons_self

theorem WellFormed.parent (wellFormed : disk.WellFormed) (stands : disk.lookup? location ≠ none) :
    disk.lookup? location.dropLast = some .directory := by
  by_cases top : location = []
  · rw [top]
    rfl
  · obtain ⟨entry, stands⟩ := Option.ne_none_iff_exists'.1 stands
    exact wellFormed _ (mem_of_lookup? top stands)

/-- All that an entry stands below are directories. -/
theorem WellFormed.above (wellFormed : disk.WellFormed) {part : Text}
    (stands : disk.lookup? (location ++ part :: parts) ≠ none) :
    disk.lookup? location = some .directory := by
  induction parts using List.reverseRecOn with
  | nil => simpa using wellFormed.parent stands
  | append_singleton parts last ih =>
    have parent := wellFormed.parent stands
    rw [← List.cons_append, ← List.append_assoc, List.dropLast_concat] at parent
    exact ih (by rw [parent]; simp)

/-- Names that do not climb back lead to what stands below the start. -/
theorem WellFormed.walk (wellFormed : disk.WellFormed) (plain : "..".toList ∉ parts)
    (stands : disk.lookup? (start ++ parts) ≠ none) :
    disk.walk start parts = .ok (start ++ parts) ∨
      disk.walk start parts = .error .nameTooLong := by
  induction parts generalizing start with
  | nil =>
    rw [List.append_nil]
    exact .inl rfl
  | cons part parts ih =>
    rw [List.mem_cons, not_or] at plain
    rw [Disk.walk, wellFormed.above stands]
    dsimp only
    by_cases long : nameLimit < byteCount part
    · rw [if_pos long]
      exact .inr rfl
    · rw [if_neg long, if_neg (Ne.symm plain.1)]
      have step : start ++ part :: parts = start ++ [part] ++ parts := by simp
      rw [step] at stands ⊢
      exact ih plain.2 stands

/-- Where names lead and no directory stands, a directory stands above. -/
theorem WellFormed.parent_of_walk (wellFormed : disk.WellFormed)
    (begin : disk.lookup? start ≠ some .directory →
      disk.lookup? start.dropLast = some .directory)
    (leads : disk.walk start parts = .ok location)
    (noDirectory : disk.lookup? location ≠ some .directory) :
    disk.lookup? location.dropLast = some .directory := by
  induction parts generalizing start with
  | nil =>
    obtain rfl := Except.ok.inj leads
    exact begin noDirectory
  | cons part parts ih =>
    obtain ⟨stands, -, rest⟩ := walk_cons_eq_ok leads
    refine ih ?_ rest
    intro _
    by_cases climbs : part = "..".toList
    · rw [if_pos climbs]
      have higher : disk.lookup? start.dropLast = some .directory :=
        wellFormed.parent (by rw [stands]; simp)
      exact wellFormed.parent (by rw [higher]; simp)
    · rw [if_neg climbs, List.dropLast_concat]
      exact stands

/-- A disk stays one tree when an entry is set in a directory and in no directory's place. -/
theorem WellFormed.set (wellFormed : disk.WellFormed) (entry : Entry)
    (noDirectory : disk.lookup? location ≠ some .directory)
    (parent : disk.lookup? location.dropLast = some .directory) :
    (disk.set location entry).WellFormed := by
  intro e member
  have directory : disk.lookup? e.1.dropLast = some .directory := by
    rw [Disk.set, List.mem_append, List.mem_singleton] at member
    rcases member with kept | rfl
    · exact wellFormed e (List.mem_filter.1 kept).1
    · exact parent
  have apart : e.1.dropLast ≠ location := by
    intro same
    rw [same] at directory
    exact noDirectory directory
  rw [lookup?_set _ _ _ _ (ne_top noDirectory), if_neg apart]
  exact directory

/-! ## Destinations -/

/-- The path leads to the location, whether or not the names after its last climb exist. -/
def Leads (disk : Disk) (path : Path) (location : Location) : Prop :=
  ∃ climbing plain base, path.parts = climbing ++ plain ∧ "..".toList ∉ plain ∧
    disk.walk [] climbing = .ok base ∧ location = base ++ plain

namespace Leads

/-- A path that does not climb leads where its names say, on every disk. -/
theorem of_plain (plain : "..".toList ∉ path.parts) : disk.Leads path path.parts :=
  ⟨[], path.parts, [], rfl, plain, rfl, rfl⟩

theorem mono (leads : before.Leads path location) (keeps : before.Keeps after) :
    after.Leads path location := by
  obtain ⟨climbing, plain, base, split, noClimb, walks, rfl⟩ := leads
  exact ⟨climbing, plain, base, split, noClimb, keeps.walk walks, rfl⟩

/-- More names lead further. -/
theorem append (leads : disk.Leads path location) {longer : Path} {names : List Text}
    (split : longer.parts = path.parts ++ names) (plain : "..".toList ∉ names) :
    disk.Leads longer (location ++ names) := by
  obtain ⟨climbing, tail, base, parts, noClimb, walks, rfl⟩ := leads
  refine ⟨climbing, tail ++ names, base, ?_, ?_, walks, ?_⟩
  · rw [split, parts, List.append_assoc]
  · rw [List.mem_append, not_or]
    exact ⟨noClimb, plain⟩
  · rw [List.append_assoc]

/-- A path that can be followed leads to its destination. -/
theorem eq_of_walk (leads : disk.Leads path location)
    (walks : disk.walk [] path.parts = .ok other) : other = location := by
  obtain ⟨climbing, plain, base, split, noClimb, climbs, rfl⟩ := leads
  rw [split, walk_append, climbs] at walks
  exact eq_append_of_walk noClimb walks

theorem eq_of_resolve (leads : disk.Leads path location)
    (found : disk.resolve path = .ok other) : other = location :=
  leads.eq_of_walk (checkNames_of_resolve found).2

/-- Where something is found, it stands at the destination. -/
theorem resolve_of_has (leads : disk.Leads path location) (present : disk.has path = true) :
    disk.resolve path = .ok location ∧ disk.lookup? location ≠ none := by
  unfold has find? at present
  split at present
  · cases present
  · next other found =>
    obtain rfl := leads.eq_of_resolve found
    exact ⟨found, Option.isSome_iff_ne_none.1 present⟩

/-- What stands at the destination is found, unless a name is too long. -/
theorem resolve (leads : disk.Leads path location) (wellFormed : disk.WellFormed)
    (checked : disk.checkNames path = .ok ()) (stands : disk.lookup? location ≠ none) :
    disk.resolve path = .ok location := by
  obtain ⟨climbing, plain, base, split, noClimb, climbs, rfl⟩ := leads
  have walks : disk.resolve path = disk.walk base plain := by
    rw [resolve_eq_walk (length_of_checkNames checked), split, walk_append, climbs]
    rfl
  rw [checkNames_eq_ok_iff] at checked
  rw [walks] at checked ⊢
  rcases wellFormed.walk noClimb stands with found | long
  · exact found
  · exact absurd long checked

theorem find?_eq (leads : disk.Leads path location) (wellFormed : disk.WellFormed)
    (checked : disk.checkNames path = .ok ()) : disk.find? path = disk.lookup? location := by
  unfold find?
  split
  · next kind failed =>
    by_cases stands : disk.lookup? location = none
    · exact stands.symm
    · rw [leads.resolve wellFormed checked stands] at failed
      cases failed
  · next other found => rw [leads.eq_of_resolve found]

/-- The path has an entry exactly if its destination has one. -/
theorem has_eq (leads : disk.Leads path location) (wellFormed : disk.WellFormed)
    (checked : disk.checkNames path = .ok ()) :
    disk.has path = (disk.lookup? location).isSome := by
  unfold has
  rw [leads.find?_eq wellFormed checked]

/-- A shorter path that can be followed leads to a directory or to somewhere above the
    destination. -/
theorem above_of_walk (leads : disk.Leads path location) {first : List Text}
    (shorter : first <+: path.parts) (walks : disk.walk [] first = .ok other)
    (noDirectory : disk.lookup? other ≠ some .directory) : other <+: location := by
  obtain ⟨climbing, plain, base, split, noClimb, climbs, rfl⟩ := leads
  obtain ⟨rest, parts⟩ := shorter
  rw [split, List.append_eq_append_iff] at parts
  rcases parts with ⟨tail, rfl, -⟩ | ⟨tail, rfl, rfl⟩
  · -- The climbing names go on after `first`, so a directory stands where it leads.
    rw [walk_append, walks] at climbs
    cases tail with
    | nil =>
      obtain rfl := Except.ok.inj climbs
      exact List.prefix_append _ _
    | cons part parts => exact absurd (walk_cons_eq_ok climbs).1 noDirectory
  · rw [walk_append, climbs] at walks
    rw [List.mem_append, not_or] at noClimb
    rw [eq_append_of_walk noClimb.1 walks]
    exact ⟨rest, by simp⟩

end Leads

end Groundwork.Disk
