import Groundwork.Proofs.Disk.Removal
import Groundwork.Proofs.Disk.Writing

/-!
# Places

The place of a path is the location that its names spell, each climb taking back the name before
it. It does not depend on a disk, and on every disk on which the path can be followed it is where
the path leads (`Disk.eq_place_of_resolve`). What a stored file does to the files of a disk can
therefore be told before it is stored (`Generator.file?_of_store`).
-/

namespace Groundwork

/-! ## Places of paths -/

namespace Path

variable {p longer : Path} {names : List Text}

/-- The location that the names of a path spell. -/
def place (p : Path) : Location := p.withoutClimbs.parts

/-- One name further, or one back. -/
def step (location : Location) (name : Text) : Location :=
  if name = "..".toList then location.dropLast else location ++ [name]

theorem place_eq_foldl (p : Path) : p.place = p.parts.foldl step [] := rfl

/-- Names that do not climb lead further. -/
theorem foldl_step_of_plain (start : Location) (plain : "..".toList ∉ names) :
    names.foldl step start = start ++ names := by
  induction names generalizing start with
  | nil => simp
  | cons name names ih =>
    rw [List.mem_cons, not_or] at plain
    rw [List.foldl_cons, ih _ plain.2, step, if_neg (Ne.symm plain.1), List.append_assoc,
      List.singleton_append]

theorem place_of_parts (split : longer.parts = p.parts ++ names) (plain : "..".toList ∉ names) :
    longer.place = p.place ++ names := by
  rw [place_eq_foldl, split, List.foldl_append, foldl_step_of_plain _ plain, place_eq_foldl]

/-- What comes after a slash adds its names. -/
theorem parts_join_slash (p : Path) (s t : Text) :
    (p.join (s ++ '/' :: t)).parts = (p.join (s ++ ['/'])).parts ++ partsOf t := by
  have anchors : (anchorOf (s ++ '/' :: t)).isEmpty = (anchorOf (s ++ ['/'])).isEmpty := by
    rw [Bool.eq_iff_iff, List.isEmpty_iff, List.isEmpty_iff, anchorOf_eq_nil_iff,
      anchorOf_eq_nil_iff]
    cases s <;> rfl
  have ending : partsOf (s ++ ['/']) = partsOf s := by
    rw [partsOf_append]
    exact List.append_nil _
  unfold join ofText
  rw [anchors]
  split
  · rw [partsOf_append, ending, List.append_assoc]
  · rw [partsOf_append, ending]

/-! ## Lengths of paths -/

/-- What a path begins with does not depend on what comes after a name. -/
theorem anchorOf_append {s : Text} {c : Char} (member : c ∈ s) (noSlash : c ≠ '/') (t : Text) :
    anchorOf (s ++ t) = anchorOf s := by
  have ends : (s.takeWhile (· = '/')).length ≠ s.length := by
    intro whole
    have slashes : (s.takeWhile (· = '/')).all (· = '/') = true := List.all_takeWhile
    rw [(List.takeWhile_prefix _).eq_of_length whole, List.all_eq_true] at slashes
    exact noSlash (by simpa using slashes c member)
  unfold anchorOf
  rw [List.takeWhile_append, if_neg ends]

theorem anchor_join_append (p : Path) {s : Text} {c : Char} (member : c ∈ s) (noSlash : c ≠ '/')
    (t : Text) : (p.join (s ++ t)).anchor = (p.join s).anchor := by
  unfold join ofText
  rw [anchorOf_append member noSlash]
  split <;> rfl

/-- More names give a longer text. -/
theorem prefix_intercalate {gap : Text} {parts : List Text} (nonempty : parts ≠ [])
    (names : List Text) : List.intercalate gap parts <+: List.intercalate gap (parts ++ names) := by
  induction parts with
  | nil => exact absurd rfl nonempty
  | cons part parts ih =>
    cases parts with
    | nil =>
      cases names with
      | nil => exact List.prefix_rfl
      | cons name names =>
        rw [List.singleton_append, List.intercalate_cons_cons, List.intercalate_singleton,
          List.append_assoc]
        exact List.prefix_append _ _
    | cons next parts =>
      rw [List.cons_append, List.cons_append, List.intercalate_cons_cons,
        List.intercalate_cons_cons, ← List.cons_append, List.prefix_append_right_inj]
      exact ih (List.cons_ne_nil _ _)

theorem prefix_render (anchor : longer.anchor = p.anchor) (nonempty : p.parts ≠ [])
    (split : longer.parts = p.parts ++ names) : p.render <+: longer.render := by
  have shown {q : Path} (some : q.parts ≠ []) :
      q.render = q.anchor ++ List.intercalate "/".toList q.parts := by
    unfold render
    rw [if_neg (by simp [some])]
  rw [shown nonempty, shown (by simp [split, nonempty]), anchor, split,
    List.prefix_append_right_inj]
  exact prefix_intercalate nonempty names

end Path

namespace Disk

variable {disk before after : Disk} {path longer : Path} {start location : Location}
  {parts names : List Text}

theorem byteCount_append (s t : Text) : byteCount (s ++ t) = byteCount s + byteCount t := by
  have counted (n : Nat) (t : Text) :
      t.foldl (fun n c => n + c.utf8Size) n = n + byteCount t := by
    induction t generalizing n with
    | nil => rfl
    | cons c t ih => rw [byteCount, List.foldl_cons, List.foldl_cons, ih, ih (0 + _)]; omega
  rw [byteCount, List.foldl_append, counted]
  rfl

/-! ## Where a path leads -/

theorem eq_foldl_of_walk (leads : disk.walk start parts = .ok location) :
    location = parts.foldl Path.step start := by
  induction parts generalizing start with
  | nil => exact (Except.ok.inj leads).symm
  | cons part parts ih => exact ih (walk_cons_eq_ok leads).2.2

/-- A path that can be followed leads to its place. -/
theorem eq_place_of_resolve (found : disk.resolve path = .ok location) : location = path.place :=
  eq_foldl_of_walk (checkNames_of_resolve found).2

theorem resolve_place_of_has (present : disk.has path = true) :
    disk.resolve path = .ok path.place := by
  unfold has find? at present
  split at present
  · cases present
  · next location found => rw [found, eq_place_of_resolve found]

/-- On the way to a file stand the directories that its path goes through. -/
theorem resolve_of_longer (found : disk.resolve longer = .ok location)
    (anchor : longer.anchor = path.anchor) (nonempty : path.parts ≠ [])
    (split : longer.parts = path.parts ++ names) (further : names ≠ []) :
    disk.resolve path = .ok path.place ∧ disk.lookup? path.place = some .directory := by
  obtain ⟨name, names, rfl⟩ := List.exists_cons_of_ne_nil further
  obtain ⟨short, walks⟩ := checkNames_of_resolve found
  have shorter : byteCount path.render ≤ pathLimit := by
    obtain ⟨rest, same⟩ := Path.prefix_render anchor nonempty split
    rw [← same, byteCount_append] at short
    omega
  rw [split, walk_append] at walks
  cases onTheWay : disk.walk [] path.parts with
  | error fault =>
    rw [onTheWay] at walks
    cases walks
  | ok mid =>
    rw [onTheWay] at walks
    have resolved : disk.resolve path = .ok mid := by rw [resolve_eq_walk shorter, onTheWay]
    obtain rfl := eq_place_of_resolve resolved
    exact ⟨resolved, (walk_cons_eq_ok walks).1⟩

/-! ## Files -/

/-- What the file at a location holds. -/
def file? (disk : Disk) (location : Location) : Option Content :=
  match disk.lookup? location with
  | some (.file content) => some content
  | _ => none

theorem file?_congr (same : after.lookup? location = before.lookup? location) :
    after.file? location = before.file? location := by
  unfold file?
  rw [same]

/-- New directories change no file. -/
theorem Grows.file?_eq {made : Location → Prop} (grows : before.Grows after made)
    (location : Location) : after.file? location = before.file? location := by
  rcases grows.entry location with same | ⟨-, absent, directory⟩
  · exact file?_congr same
  · unfold file?
    rw [absent, directory]

theorem file?_set {entry : Entry} (inside : location ≠ []) (other : Location)
    (apart : other ≠ location) : (disk.set location entry).file? other = disk.file? other :=
  file?_congr (by rw [lookup?_set _ _ _ _ inside, if_neg apart])

theorem file?_removeBelow (inside : location ≠ []) (other : Location) :
    (disk.removeBelow location).file? other =
      if location <+: other then none else disk.file? other := by
  split
  · next below =>
    unfold file?
    rw [lookup?_removeBelow_inside inside below]
  · next apart => exact file?_congr (lookup?_removeBelow_outside apart)

/-- No file stands where nothing stands above. -/
theorem WellFormed.file?_eq_none (wellFormed : disk.WellFormed)
    (absent : disk.lookup? location = none) {other : Location} (below : location <+: other) :
    disk.file? other = none := by
  have missing : disk.lookup? other = none := by
    obtain ⟨names, rfl⟩ := below
    cases names with
    | nil => rwa [List.append_nil]
    | cons name names =>
      by_contra stands
      rw [wellFormed.above stands] at absent
      cases absent
  unfold file?
  rw [missing]

end Disk

namespace Generator

open Disk

variable {disk disk' : Disk} {path : Path} {content : Text}

/-- A file that is stored can be found at its place. -/
theorem resolve_place_of_store (stored : store disk path content = (disk', .ok ())) :
    disk'.resolve path = .ok path.place := by
  obtain ⟨mid, -, wrote⟩ := store_eq_ok stored
  obtain ⟨location, found, noDirectory, rfl⟩ := write_eq_ok wrote
  rw [(keeps_set noDirectory).resolve found, eq_place_of_resolve found]

/-- Storing a file changes no other file. -/
theorem file?_of_store (stored : store disk path content = (disk', .ok ())) {location : Location}
    (apart : location ≠ path.place) : disk'.file? location = disk.file? location := by
  obtain ⟨mid, directories, wrote⟩ := store_eq_ok stored
  have grows : disk.Grows mid fun _ => True :=
    grows_of_makeDirectories (fun _ _ _ _ _ _ _ => trivial) directories
  obtain ⟨other, found, noDirectory, rfl⟩ := write_eq_ok wrote
  obtain rfl := eq_place_of_resolve found
  rw [file?_set (ne_top noDirectory) _ apart, grows.file?_eq]

end Generator

end Groundwork
