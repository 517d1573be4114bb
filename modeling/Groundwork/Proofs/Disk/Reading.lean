import Groundwork.Disk.Lemmas
import Groundwork.Text.Lemmas

/-!
# Files that are read back

A path and its text may be put together in two ways; the names on the way are the same
(`Path.parts_join_join`). A file that was written is found through every path with these names
(`Disk.find?_of_write`), and it is read as it was written if it has no carriage returns
(`Disk.read_of_write`).
-/

namespace Groundwork

theorem Text.normaliseLineEnds_of_not_mem {s : Text} (absent : '\r' ∉ s) :
    normaliseLineEnds s = s := by
  fun_induction normaliseLineEnds s <;> simp_all

/-! ## Names of a path -/

namespace Path

theorem partsOf_append (s t : Text) : partsOf (s ++ '/' :: t) = partsOf s ++ partsOf t := by
  unfold partsOf
  rw [Text.split_append, List.filter_append]

theorem anchorOf_eq_nil_iff {s : Text} : anchorOf s = [] ↔ s.head? ≠ some '/' := by
  unfold anchorOf
  cases s with
  | nil => simp
  | cons c s =>
    by_cases slash : c = '/'
    · rw [List.takeWhile_cons_of_pos (by simp [slash]), List.length_cons]
      split <;> simp_all
    · simp [slash]

/-- Joining two texts one after the other leads through the same names as joining both at once. -/
theorem parts_join_join (p : Path) {s t : Text} (nonempty : s ≠ []) (relative : anchorOf t = []) :
    ((p.join s).join t).parts = (p.join (s ++ '/' :: t)).parts := by
  obtain ⟨c, s, rfl⟩ := List.exists_cons_of_ne_nil nonempty
  have anchors : (anchorOf (c :: s ++ '/' :: t)).isEmpty = (anchorOf (c :: s)).isEmpty := by
    rw [Bool.eq_iff_iff, List.isEmpty_iff, List.isEmpty_iff, anchorOf_eq_nil_iff,
      anchorOf_eq_nil_iff]
    rfl
  have step (q : Path) : (q.join t).parts = q.parts ++ partsOf t := by
    simp [join, relative]
  rw [step]
  unfold join
  rw [anchors]
  split
  · rw [partsOf_append, List.append_assoc]
  · exact (partsOf_append _ _).symm

end Path

/-! ## Locations -/

namespace Disk

variable {disk disk' : Disk} {path other : Path}

/-- A path that is not too long leads where its names do. -/
theorem resolve_eq_walk (short : byteCount path.render ≤ pathLimit) :
    disk.resolve path = disk.walk [] path.parts := by
  unfold resolve
  rw [if_neg (by omega)]

theorem length_of_checkNames (checked : disk.checkNames path = .ok ()) :
    byteCount path.render ≤ pathLimit := by
  by_cases short : byteCount path.render ≤ pathLimit
  · exact short
  · unfold checkNames resolve at checked
    rw [if_pos (by omega)] at checked
    cases checked

theorem checkNames_of_resolve {location : Location} (found : disk.resolve path = .ok location) :
    byteCount path.render ≤ pathLimit ∧ disk.walk [] path.parts = .ok location := by
  unfold resolve at found
  split at found
  · cases found
  · exact ⟨by omega, found⟩

/-- Paths with the same names lead to the same location. -/
theorem find?_congr (same : other.parts = path.parts) (short : byteCount path.render ≤ pathLimit)
    (otherShort : byteCount other.render ≤ pathLimit) : disk.find? other = disk.find? path := by
  unfold find?
  rw [resolve_eq_walk short, resolve_eq_walk otherShort, same]

/-- What stands at a location that is no directory does not matter on the way to it. -/
theorem walk_set {location : Location} (entry : Entry) (inside : location ≠ [])
    (noDirectory : disk.lookup? location ≠ some .directory) {parts : List Text} {start : Location}
    (leads : disk.walk start parts = .ok location) :
    (disk.set location entry).walk start parts = .ok location := by
  induction parts generalizing start with
  | nil => exact leads
  | cons part parts ih =>
    unfold walk at leads ⊢
    rw [lookup?_set _ _ _ _ inside]
    split at leads
    · cases leads
    · cases leads
    · next directory =>
      have other : start ≠ location := by
        rintro rfl
        exact noDirectory directory
      rw [if_neg other, directory]
      split at leads
      · cases leads
      · next short =>
        simp only [short, if_false]
        exact ih leads

/-- A file that was written is found through every path with the same names. -/
theorem find?_of_write {t : Text} (wrote : disk.write path t = .ok disk')
    (same : other.parts = path.parts) (short : byteCount other.render ≤ pathLimit) :
    disk'.find? other = some (.file (.text t)) := by
  unfold write at wrote
  split at wrote
  · cases wrote
  · next location found =>
    split at wrote
    · cases wrote
    · next noDirectory =>
      obtain rfl := Except.ok.inj wrote
      have inside : location ≠ [] := by
        rintro rfl
        exact noDirectory rfl
      have leads := walk_set (.file (.text t)) inside noDirectory
        (checkNames_of_resolve found).2
      unfold find?
      rw [resolve_eq_walk short, same, leads]
      simp only [lookup?_set _ _ _ _ inside, if_true]

/-- A text that is found is read with its line endings as line feeds. -/
theorem read_of_find? {t : Text} (found : disk.find? path = some (.file (.text t))) :
    disk.read path = .ok (Text.normaliseLineEnds t) := by
  unfold find? at found
  unfold read
  split at found
  · cases found
  · rw [found]

/-- A file that was written is read through every path with the same names. -/
theorem read_of_write {t : Text} (wrote : disk.write path t = .ok disk')
    (same : other.parts = path.parts) (short : byteCount other.render ≤ pathLimit)
    (noReturn : '\r' ∉ t) : disk'.read other = .ok t := by
  rw [read_of_find? (find?_of_write wrote same short),
    Text.normaliseLineEnds_of_not_mem noReturn]

/-- Something stands where a file is read. -/
theorem has_of_read {t : Text} (read : disk.read path = .ok t) : disk.has path = true := by
  unfold Disk.read at read
  unfold has find?
  split at read
  · cases read
  · next location found =>
    split at read
    · cases read
    · cases read
    · cases read
    · next contents stands =>
      simp [stands]

end Disk

end Groundwork
