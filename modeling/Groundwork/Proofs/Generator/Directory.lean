import Groundwork.Proofs.Disk.Removal
import Groundwork.Proofs.Generator.Placement
import Groundwork.Proofs.Generator.Rejection
import Groundwork.Proofs.Naming.Plural

/-!
# Directories of models

The directory that holds what was generated for a model is named by the model's plural, and the
command that removes it forms the same path as the commands that write into it
(`directory_of_plan`). The name is the last one on that path, and it is neither empty nor a climb
(`partsOf_innerPath`), so the path never leads to the top.
-/

namespace Groundwork

namespace Naming

variable {x : Char} {s : Text}

theorem getLast?_kebab_pluralise (s : Text) : (kebab (pluralise s)).getLast? = some 's' := by
  have marked : markCapitals (pluralStem s ++ ['s']) = markCapitals (pluralStem s) ++ ['s'] :=
    List.flatMap_append
  have last : (Text.lower (markCapitals (pluralStem s ++ ['s']))).getLast? = some 's' := by
    rw [marked]
    exact Text.getLast?_lower (by decide) (by decide)
  obtain ⟨front, spelled⟩ := List.getLast?_eq_some_iff.1 last
  unfold kebab snake
  rw [pluralise_eq, List.getLast?_map, spelled]
  cases front with
  | nil => decide
  | cons c front =>
    rw [List.cons_append, Text.dropOne]
    split
    · rw [List.getLast?_concat]
      decide
    · rw [← List.cons_append, List.getLast?_concat]
      decide

theorem kebab_pluralise_ne_nil (s : Text) : kebab (pluralise s) ≠ [] := by
  intro empty
  have last := getLast?_kebab_pluralise s
  rw [empty] at last
  cases last

end Naming

namespace ModelNames

open Naming

/-- The plural of an accepted name is the name of a file. -/
theorem kebabPlural_isFileName {name : Text} (valid : checkModelName name = .ok ()) :
    (ofName name).kebabPlural ≠ [] ∧ '/' ∉ (ofName name).kebabPlural ∧
      '.' ∉ (ofName name).kebabPlural := by
  have absent (c : Char) (mark : c.toNat < 65) (noHyphen : c ≠ '-') (other : ¬ IsNameChar c) :
      c ∉ (ofName name).kebabPlural := by
    intro member
    have inside := mem_pluralise mark (mem_kebab mark noHyphen member)
    rcases mem_singularise inside with named | rfl
    · exact other (isNameChar_of_checkModelName valid c named)
    · exact absurd mark (by decide)
  exact ⟨kebab_pluralise_ne_nil _,
    absent '/' (by decide) (by decide) (by unfold IsNameChar; decide),
    absent '.' (by decide) (by decide) (by unfold IsNameChar; decide)⟩

end ModelNames

namespace Path

variable {s t : Text}

/-- A text without slash and dot is one name. -/
theorem partsOf_of_plain (nonempty : s ≠ []) (noSlash : '/' ∉ s) (noDot : '.' ∉ s) :
    partsOf s = [s] := by
  have other : s ≠ ['.'] := by
    rintro rfl
    simp at noDot
  unfold partsOf
  rw [Text.split_of_not_mem noSlash]
  simp [nonempty, other]

/-- The names on a path that is taken from a directory end with those of the text. -/
theorem suffix_parts_join (p : Path) (s : Text) : partsOf s <:+ (p.join s).parts := by
  unfold join ofText
  split
  · exact List.suffix_append _ _
  · exact List.suffix_rfl

end Path

namespace Generator

variable {g : Generator} {disk : Disk} {name : Text}

/-- The path of a model's directory, from the app's. -/
def innerPath (names : ModelNames) : Removable → Text
  | .scaffold | .resource => names.kebabPlural
  | .api => "api".toList ++ '/' :: names.kebabPlural

theorem directoryOf_eq (g : Generator) (names : ModelNames) (removable : Removable) :
    g.directoryOf names removable = g.settings.appFolder ++ '/' :: innerPath names removable := by
  cases removable <;>
    simp [directoryOf, pagePath, apiPath, innerPath, List.intercalate_cons_cons,
      List.intercalate_singleton]

/-- The directories between the app's and a model's. -/
def between : Removable → List Text
  | .scaffold | .resource => []
  | .api => ["api".toList]

/-- The path of a model's directory ends with the model's plural. -/
theorem partsOf_innerPath (valid : checkModelName name = .ok ()) (removable : Removable) :
    Path.partsOf (innerPath (.ofName name) removable) =
      between removable ++ [(ModelNames.ofName name).kebabPlural] := by
  obtain ⟨nonempty, noSlash, noDot⟩ := ModelNames.kebabPlural_isFileName valid
  have last := Path.partsOf_of_plain nonempty noSlash noDot
  cases removable with
  | scaffold => exact last
  | resource => exact last
  | api =>
    rw [innerPath, Path.partsOf_append, last]
    rfl

theorem kebabPlural_ne_climb (valid : checkModelName name = .ok ()) :
    (ModelNames.ofName name).kebabPlural ≠ "..".toList := by
  intro climb
  have noDot := (ModelNames.kebabPlural_isFileName valid).2.2
  rw [climb] at noDot
  exact noDot (by decide)

/-- Where the path of a model's directory leads has the model's plural as its name. -/
theorem getLast?_of_resolve (valid : checkModelName name = .ok ()) {removable : Removable}
    {location : Location}
    (found : disk.resolve (g.settings.root.join (g.directoryOf (.ofName name) removable)) =
      .ok location) : location.getLast? = some (ModelNames.ofName name).kebabPlural := by
  obtain ⟨front, parts⟩ :=
    Path.suffix_parts_join g.settings.root (g.directoryOf (.ofName name) removable)
  refine Disk.getLast?_of_walk ?_ (kebabPlural_ne_climb valid) (Disk.checkNames_of_resolve found).2
  rw [← parts, directoryOf_eq, Path.partsOf_append, partsOf_innerPath valid, ← List.append_assoc,
    ← List.append_assoc, List.getLast?_concat]

/-- A plan for a model's names and fields has checked the name. -/
theorem valid_of_named {tokens : List Text} {drafts : List Draft}
    {next : ModelNames × List Field → Except Failure (List Draft)}
    (planned : (g.named name tokens >>= next) = .ok drafts) : checkModelName name = .ok () := by
  obtain ⟨_, read, -⟩ := bind_eq_ok_iff.1 planned
  exact (bind_eq_ok_iff.1 read).choose_spec.1

/-- The directory that a command writes to is the one that is removed for its model. -/
theorem directory_of_plan {request : Request} {drafts : List Draft} {directory : Text}
    (planned : g.plan disk request = .ok drafts) (found : g.directory? request = some directory)
    (pages : ∀ names fields, request = .pages names fields →
      ∃ name, checkModelName name = .ok () ∧ names = .ofName name) :
    ∃ name removable, checkModelName name = .ok () ∧
      directory = g.directoryOf (.ofName name) removable := by
  cases request with
  | model name tokens => cases found
  | actions name =>
    exact ⟨name, .resource, (bind_eq_ok_iff.1 planned).choose_spec.1, (Option.some.inj found).symm⟩
  | pages names fields =>
    obtain ⟨name, valid, rfl⟩ := pages names fields rfl
    exact ⟨name, .scaffold, valid, (Option.some.inj found).symm⟩
  | scaffold name tokens =>
    exact ⟨name, .scaffold, valid_of_named planned, (Option.some.inj found).symm⟩
  | resource name tokens =>
    exact ⟨name, .resource, valid_of_named planned, (Option.some.inj found).symm⟩
  | api name tokens => exact ⟨name, .api, valid_of_named planned, (Option.some.inj found).symm⟩

end Generator

end Groundwork
