import Groundwork.Generator.Command
import Groundwork.Proofs.Disk.Destination

/-!
# Effects of writing

What a stored file changes on a disk. Making directories adds directories and changes nothing that
stands (`Grows`). Files that were written hold their texts, and elsewhere at most directories above
them are new (`Wrote`); writing at one place after the other adds up (`Wrote.append`).
-/

namespace Groundwork.Disk

variable {disk disk' before mid after : Disk} {path : Path} {location : Location}
  {names : List Text} {content : Text}

/-! ## Making directories -/

/-- Directories may be new at the given locations, and everything else is as before. -/
structure Grows (before after : Disk) (made : Location → Prop) : Prop where
  entry : ∀ location, after.lookup? location = before.lookup? location ∨
    made location ∧ before.lookup? location = none ∧ after.lookup? location = some .directory
  wellFormed : before.WellFormed → after.WellFormed

namespace Grows

variable {made : Location → Prop}

theorem refl (disk : Disk) (made : Location → Prop) : disk.Grows disk made :=
  ⟨fun _ => .inl rfl, id⟩

theorem trans (first : before.Grows mid made) (second : mid.Grows after made) :
    before.Grows after made := by
  refine ⟨?_, fun wellFormed => second.wellFormed (first.wellFormed wellFormed)⟩
  intro location
  rcases second.entry location with same | ⟨allowed, absent, directory⟩
  · rw [same]
    exact first.entry location
  · rcases first.entry location with same | ⟨-, -, stands⟩
    · exact .inr ⟨allowed, same ▸ absent, directory⟩
    · rw [stands] at absent
      cases absent

theorem keeps (grows : before.Grows after made) : before.Keeps after := by
  intro location directory
  rcases grows.entry location with same | ⟨-, absent, -⟩
  · rw [same, directory]
  · rw [absent] at directory
    cases directory

end Grows

/-- A directory is ensured if it is there, or if it is made where nothing stands. -/
theorem ensureDirectory_eq_ok (ensured : disk.ensureDirectory path = .ok disk') :
    disk' = disk ∨ ∃ location, disk.resolve path = .ok location ∧
      disk.lookup? location = none ∧ disk' = disk.set location .directory := by
  unfold ensureDirectory at ensured
  split at ensured
  · next other made =>
    obtain rfl := Except.ok.inj ensured
    unfold makeDirectory at made
    split at made
    · cases made
    · next location found =>
      split at made
      · cases made
      · next absent => exact .inr ⟨location, found, absent, (Except.ok.inj made).symm⟩
  · cases ensured
  · split at ensured
    · exact .inl (Except.ok.inj ensured).symm
    · cases ensured

theorem grows_of_ensureDirectory {made : Location → Prop}
    (allowed : ∀ location, disk.walk [] path.parts = .ok location →
      disk.lookup? location ≠ some .directory → made location)
    (ensured : disk.ensureDirectory path = .ok disk') : disk.Grows disk' made := by
  rcases ensureDirectory_eq_ok ensured with rfl | ⟨location, found, absent, rfl⟩
  · exact .refl _ _
  have walks := (checkNames_of_resolve found).2
  have noDirectory : disk.lookup? location ≠ some .directory := by
    simp [absent]
  constructor
  · intro other
    rw [lookup?_set _ _ _ _ (ne_top noDirectory)]
    by_cases here : other = location
    · subst here
      rw [if_pos rfl]
      exact .inr ⟨allowed _ walks noDirectory, absent, rfl⟩
    · rw [if_neg here]
      exact .inl rfl
  · intro wellFormed
    exact wellFormed.set .directory noDirectory
      (wellFormed.parent_of_walk (fun none => absurd rfl none) walks noDirectory)

/-- Where a directory is missing on the way through the names, now or later, one may be made. -/
def Allows (disk : Disk) (names : List Text) (made : Location → Prop) : Prop :=
  ∀ later, disk.Keeps later → ∀ first, first <+: names → ∀ location,
    later.walk [] first = .ok location → later.lookup? location ≠ some .directory → made location

/-- Making directories one above the other, from the last name on, adds them where they are
    missing. -/
theorem grows_of_makeDirectoriesUp {made : Location → Prop} {anchor : Text}
    {result : Except Failure Unit} (allows : disk.Allows names.reverse made)
    (done : disk.makeDirectoriesUp anchor names = (disk', result)) : disk.Grows disk' made := by
  induction names generalizing disk' result with
  | nil =>
    obtain ⟨rfl, -⟩ := Prod.mk.inj done
    exact .refl _ _
  | cons part above ih =>
    have higher : above.reverse <+: (part :: above).reverse := by
      rw [List.reverse_cons]
      exact List.prefix_append _ _
    unfold makeDirectoriesUp at done
    dsimp only at done
    split at done
    · next ensured =>
      obtain ⟨rfl, -⟩ := Prod.mk.inj done
      exact grows_of_ensureDirectory (allows _ (.refl _) _ (List.prefix_refl _)) ensured
    · rcases up : disk.makeDirectoriesUp anchor above with ⟨parents, failure | _⟩
      · rw [up] at done
        obtain ⟨rfl, -⟩ := Prod.mk.inj done
        exact ih (fun later keeps first shorter =>
          allows later keeps first (shorter.trans higher)) up
      · rw [up] at done
        have grows : disk.Grows parents made := ih (fun later keeps first shorter =>
          allows later keeps first (shorter.trans higher)) up
        dsimp only at done
        split at done
        · next ensured =>
          obtain ⟨rfl, -⟩ := Prod.mk.inj done
          exact grows.trans (grows_of_ensureDirectory
            (allows _ grows.keeps _ (List.prefix_refl _)) ensured)
        · obtain ⟨rfl, -⟩ := Prod.mk.inj done
          exact grows
    · obtain ⟨rfl, -⟩ := Prod.mk.inj done
      exact .refl _ _

theorem grows_of_makeDirectories {made : Location → Prop} {result : Except Failure Unit}
    (allows : disk.Allows path.parts made)
    (done : disk.makeDirectories path = (disk', result)) : disk.Grows disk' made := by
  refine grows_of_makeDirectoriesUp ?_ done
  rw [List.reverse_reverse]
  exact allows

/-! ## Files -/

/-- Files were written: they hold their texts, and elsewhere at most directories above them are
    new. -/
structure Wrote (before after : Disk) (files : List (Location × Text)) : Prop where
  holds : ∀ file ∈ files, after.lookup? file.1 = some (.file (.text file.2))
  noDirectory : ∀ file ∈ files, before.lookup? file.1 ≠ some .directory
  elsewhere : ∀ location, (∀ file ∈ files, file.1 ≠ location) →
    after.lookup? location = before.lookup? location ∨
      (∃ file ∈ files, location <+: file.1) ∧ before.lookup? location = none ∧
        after.lookup? location = some .directory
  wellFormed : before.WellFormed → after.WellFormed

namespace Wrote

variable {files others : List (Location × Text)}

theorem nil (disk : Disk) : disk.Wrote disk [] :=
  ⟨by simp, by simp, fun _ _ => .inl rfl, id⟩

theorem keeps (wrote : before.Wrote after files) : before.Keeps after := by
  intro location directory
  have apart : ∀ file ∈ files, file.1 ≠ location := by
    rintro file member rfl
    exact wrote.noDirectory file member directory
  rcases wrote.elsewhere location apart with same | ⟨-, absent, -⟩
  · rw [same, directory]
  · rw [absent] at directory
    cases directory

/-- Nothing changes at a location that no file stands at or below. -/
theorem untouched (wrote : before.Wrote after files)
    (apart : ∀ file ∈ files, ¬ location <+: file.1) :
    after.lookup? location = before.lookup? location := by
  have other : ∀ file ∈ files, file.1 ≠ location := by
    rintro file member rfl
    exact apart file member (List.prefix_refl _)
  rcases wrote.elsewhere location other with same | ⟨⟨file, member, below⟩, -⟩
  · exact same
  · exact absurd below (apart file member)

/-- What stands apart from the files stays. -/
theorem stays (wrote : before.Wrote after files) (apart : ∀ file ∈ files, file.1 ≠ location)
    (stands : before.lookup? location ≠ none) :
    after.lookup? location = before.lookup? location := by
  rcases wrote.elsewhere location apart with same | ⟨-, absent, -⟩
  · exact same
  · exact absurd absent stands

/-- Where a file stood there is a file. -/
theorem remains (wrote : before.Wrote after files) {content : Content}
    (stands : before.lookup? location = some (.file content)) :
    ∃ content', after.lookup? location = some (.file content') := by
  by_cases written : ∃ file ∈ files, file.1 = location
  · obtain ⟨file, member, rfl⟩ := written
    exact ⟨_, wrote.holds file member⟩
  · have apart : ∀ file ∈ files, file.1 ≠ location :=
      fun file member same => written ⟨file, member, same⟩
    exact ⟨content, by rw [wrote.stays apart (by rw [stands]; simp), stands]⟩

/-- Files that are written later, at other locations, leave the earlier ones as they are. -/
theorem append (first : before.Wrote mid files) (second : mid.Wrote after others)
    (apart : ∀ file ∈ files, ∀ other ∈ others, other.1 ≠ file.1) :
    before.Wrote after (files ++ others) := by
  refine ⟨?_, ?_, ?_, fun wellFormed => second.wellFormed (first.wellFormed wellFormed)⟩
  · intro file member
    rcases List.mem_append.1 member with earlier | later
    · have holds := first.holds file earlier
      rw [second.stays (apart file earlier) (by rw [holds]; simp), holds]
    · exact second.holds file later
  · intro file member directory
    rcases List.mem_append.1 member with earlier | later
    · exact first.noDirectory file earlier directory
    · exact second.noDirectory file later (first.keeps _ directory)
  · intro location apart
    have earlier := first.elsewhere location fun file member =>
      apart file (List.mem_append_left _ member)
    have later := second.elsewhere location fun file member =>
      apart file (List.mem_append_right _ member)
    rcases later with same | ⟨⟨file, member, below⟩, absent, directory⟩
    · rw [same]
      rcases earlier with same | ⟨⟨file, member, below⟩, new⟩
      · exact .inl same
      · exact .inr ⟨⟨file, List.mem_append_left _ member, below⟩, new⟩
    · rcases earlier with same | ⟨-, -, stands⟩
      · exact .inr ⟨⟨file, List.mem_append_right _ member, below⟩, same ▸ absent, directory⟩
      · rw [stands] at absent
        cases absent

end Wrote

theorem write_eq_ok (wrote : disk.write path content = .ok disk') :
    ∃ location, disk.resolve path = .ok location ∧ disk.lookup? location ≠ some .directory ∧
      disk' = disk.set location (.file (.text content)) := by
  unfold write at wrote
  split at wrote
  · cases wrote
  · next location found =>
    split at wrote
    · cases wrote
    · next noDirectory => exact ⟨location, found, noDirectory, (Except.ok.inj wrote).symm⟩

theorem keeps_set {entry : Entry} (noDirectory : disk.lookup? location ≠ some .directory) :
    disk.Keeps (disk.set location entry) := by
  intro other directory
  have apart : other ≠ location := by
    rintro rfl
    exact noDirectory directory
  rw [lookup?_set _ _ _ _ (ne_top noDirectory), if_neg apart, directory]

end Groundwork.Disk

namespace Groundwork.Generator

open Disk

variable {disk disk' : Disk} {path : Path} {location : Location} {content : Text}

/-- A file is stored by making its directory and writing it. -/
theorem store_eq_ok (stored : store disk path content = (disk', .ok ())) :
    ∃ mid, disk.makeDirectories path.parent = (mid, .ok ()) ∧
      mid.write path content = .ok disk' := by
  unfold store at stored
  split at stored
  · cases stored
  · split at stored
    · cases stored
    · next mid _ directories =>
      split at stored
      · next wrote =>
        obtain ⟨rfl, -⟩ := Prod.mk.inj stored
        exact ⟨mid, directories, wrote⟩
      · cases stored

theorem keeps_of_store (stored : store disk path content = (disk', .ok ())) :
    disk.Keeps disk' := by
  obtain ⟨mid, directories, wrote⟩ := store_eq_ok stored
  have grows : disk.Grows mid fun _ => True :=
    grows_of_makeDirectories (fun _ _ _ _ _ _ _ => trivial) directories
  obtain ⟨location, -, noDirectory, rfl⟩ := write_eq_ok wrote
  exact grows.keeps.trans (keeps_set noDirectory)

/-- A file that is stored was written to its destination. -/
theorem wrote_of_store (leads : disk.Leads path location)
    (stored : store disk path content = (disk', .ok ())) :
    disk.Wrote disk' [(location, content)] := by
  obtain ⟨mid, directories, wrote⟩ := store_eq_ok stored
  have grows : disk.Grows mid (· <+: location) := by
    refine grows_of_makeDirectories ?_ directories
    intro later keeps first shorter other walks noDirectory
    exact (leads.mono keeps).above_of_walk (shorter.trans (List.dropLast_prefix _)) walks
      noDirectory
  obtain ⟨other, found, noDirectory, rfl⟩ := write_eq_ok wrote
  obtain rfl := (leads.mono grows.keeps).eq_of_resolve found
  refine ⟨?_, ?_, ?_, ?_⟩
  · intro file member
    rw [List.mem_singleton.1 member, lookup?_set _ _ _ _ (ne_top noDirectory), if_pos rfl]
  · intro file member directory
    rw [List.mem_singleton.1 member] at directory
    exact noDirectory (grows.keeps _ directory)
  · intro elsewhere apart
    have here : elsewhere ≠ other := Ne.symm (apart _ (List.mem_singleton_self _))
    rw [lookup?_set _ _ _ _ (ne_top noDirectory), if_neg here]
    rcases grows.entry elsewhere with same | ⟨above, new⟩
    · exact .inl same
    · exact .inr ⟨⟨_, List.mem_singleton_self _, above⟩, new⟩
  · intro wellFormed
    exact (grows.wellFormed wellFormed).set _ noDirectory
      ((grows.wellFormed wellFormed).parent_of_walk (fun none => absurd rfl none)
        (checkNames_of_resolve found).2 noDirectory)

/-- A path can be followed once a file is stored there. -/
theorem resolve_of_store (leads : disk.Leads path location)
    (stored : store disk path content = (disk', .ok ())) : disk'.resolve path = .ok location := by
  have keeps := keeps_of_store stored
  obtain ⟨mid, -, wrote⟩ := store_eq_ok stored
  obtain ⟨other, found, noDirectory, rfl⟩ := write_eq_ok wrote
  have after : (mid.set other (.file (.text content))).resolve path = .ok other :=
    (keeps_set noDirectory).resolve found
  rw [after, (leads.mono keeps).eq_of_resolve after]

end Groundwork.Generator
