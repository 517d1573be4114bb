import Groundwork.Disk.Basic

/-!
# Entries of a disk

What stands at a location after an entry was set (`lookup?_set`) and after a directory was removed
(`lookup?_removeBelow`). Both change nothing elsewhere.
-/

namespace Groundwork.Disk

/-- Looking up a location among the entries that a test of the location keeps. -/
theorem lookup_filter (keep : Location → Bool) (location : Location)
    (entries : List (Location × Entry)) :
    (entries.filter fun (other, _) => keep other).lookup location
      = if keep location then entries.lookup location else none := by
  induction entries with
  | nil => simp
  | cons e entries ih =>
    obtain ⟨other, entry⟩ := e
    by_cases h : location = other
    · subst h
      cases hk : keep location with
      | true => simp [hk]
      | false => rw [List.filter_cons_of_neg (by simp [hk]), ih]; simp [hk]
    · have hb : (location == other) = false := by simp [h]
      cases hk : keep other with
      | true => rw [List.filter_cons_of_pos (by exact hk)]; simp [List.lookup_cons, hb, ih]
      | false => rw [List.filter_cons_of_neg (by simp [hk]), ih]; simp [List.lookup_cons, hb]

theorem lookup?_eq {disk : Disk} {location : Location} (h : location ≠ []) :
    disk.lookup? location = disk.entries.lookup location := by
  cases location with
  | nil => exact absurd rfl h
  | cons part parts => rfl

/-- Setting an entry changes what stands at its own location and nowhere else. -/
theorem lookup?_set (disk : Disk) (location other : Location) (entry : Entry) (h : location ≠ []) :
    (disk.set location entry).lookup? other
      = if other = location then some entry else disk.lookup? other := by
  cases other with
  | nil => simp [lookup?, Ne.symm h]
  | cons part parts =>
    simp only [lookup?, set, List.lookup_append]
    rw [lookup_filter (fun other => decide (other ≠ location))]
    by_cases ho : part :: parts = location
    · subst ho
      simp
    · have hb : (part :: parts == location) = false := by simp [ho]
      simp [ho, List.lookup_cons, hb]

/-- Nothing stands at or below a location that was removed, and the rest is as before. -/
theorem lookup?_removeBelow (disk : Disk) (location other : Location) (h : other ≠ []) :
    (disk.removeBelow location).lookup? other
      = if location.isPrefixOf other then none else disk.lookup? other := by
  rw [lookup?_eq h, lookup?_eq h, removeBelow,
    lookup_filter (fun other => !location.isPrefixOf other)]
  by_cases hp : location.isPrefixOf other <;> simp [hp]

end Groundwork.Disk
