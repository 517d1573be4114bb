import Groundwork.Proofs.Naming.Plural

/-!
# Singulars of accepted names

What the singular of a noun is, by the ending that it takes off (`singularise_cases`), that a plural
made once more into a plural is no plural of the noun (`length_pluralise_singularise_lt`), and which
accepted names have a singular that is no name for a model (`singular_accepted_iff`): the letter
`s`, and the plural in `s` of a reserved word.
-/

namespace Groundwork

namespace Naming

variable {s : Text}

/-- The endings that keep their letters where a plural in `es` is taken off. -/
def singularSibilants : List Text := ["x", "ch", "sh", "ss"]

/-- How a singular is formed: `ies` becomes `y`, `es` goes after some endings, and all other words
    lose an `s` or are kept. -/
theorem singularise_cases (s : Text) :
    (∃ stem, s = stem ++ "ies" ∧ singularise s = stem ++ ['y']) ∨
    (∃ stem, ∃ ending ∈ singularSibilants, s = stem ++ ending ++ "es" ∧
      singularise s = stem ++ ending) ∨
    (∃ stem, s = stem ++ ['s'] ∧ singularise s = stem) ∨ singularise s = s := by
  unfold singularise
  split
  · next stem found => exact .inl ⟨stem, Text.before?_eq_some_iff.1 found, rfl⟩
  · split
    · next plural =>
      obtain ⟨word, listed, ends⟩ := List.any_eq_true.1 plural
      have endings : ∀ word ∈ ["xes", "ches", "shes", "sses"], ∃ ending ∈ singularSibilants,
          word.toList = ending ++ "es" := by decide
      obtain ⟨ending, sibilant, cut⟩ := endings word listed
      obtain ⟨stem, rfl⟩ := Text.endsWith_iff.1 ends
      have count : (stem ++ word.toList).length - 2 = (stem ++ ending).length := by
        rw [cut, List.length_append, List.length_append, List.length_append]
        exact Nat.add_sub_cancel (stem.length + ending.length) 2
      refine .inr (.inl ⟨stem, ending, sibilant, by rw [cut, List.append_assoc], ?_⟩)
      rw [count, cut, ← List.append_assoc, List.take_left]
    · split
      · next single =>
        obtain ⟨stem, rfl⟩ := Text.endsWith_iff.1 (Bool.and_eq_true _ _ ▸ single).1
        exact .inr (.inr (.inl ⟨stem, rfl, List.dropLast_concat⟩))
      · exact .inr (.inr (.inr rfl))

/-- A word without the endings of longer plurals loses its `s`. -/
theorem singularise_s {stem : Text}
    (short : ∀ ending ∈ ["ie", "xe", "che", "she", "sse", "s"].map String.toList,
      ¬ ending <:+ stem) : singularise (stem ++ ['s']) = stem := by
  have absent (word : Text) (ending : Text) (cut : word = ending ++ ['s'])
      (listed : ending ∈ ["ie", "xe", "che", "she", "sse", "s"].map String.toList) :
      Text.endsWith word (stem ++ ['s']) = false := by
    rw [Bool.eq_false_iff, Ne, Text.endsWith_iff]
    rintro ⟨front, same⟩
    rw [cut, ← List.append_assoc] at same
    exact short ending listed ⟨front, List.append_cancel_right same⟩
  have noStem : Text.before? "ies" (stem ++ ['s']) = none := by
    have ends := absent "ies" "ie" rfl (by decide)
    rwa [Text.endsWith_eq_false_iff] at ends
  have single : Text.endsWith "s" (stem ++ ['s']) = true :=
    Text.endsWith_iff.2 (List.suffix_append _ _)
  unfold singularise
  rw [noStem]
  simp only [List.any_cons, List.any_nil, absent "xes" "xe" rfl (by decide),
    absent "ches" "che" rfl (by decide), absent "shes" "she" rfl (by decide),
    absent "sses" "sse" rfl (by decide), absent "ss" "s" rfl (by decide), single]
  simp

/-- The words that are their own singulars. -/
theorem singularise_eq_self_iff : singularise s = s ↔ IsSingular s := by
  refine ⟨fun same => ?_, singularise_of_isSingular⟩
  by_contra plural
  obtain ⟨last, pair⟩ : s.getLast? = some 's' ∧ ¬ ['s', 's'] <:+ s := by
    simpa [IsSingular] using plural
  obtain ⟨stem, rfl⟩ : ∃ stem, s = stem ++ ['s'] :=
    ⟨s.dropLast, (List.dropLast_append_getLast? _ last).symm⟩
  have single : (Text.endsWith "s" (stem ++ ['s']) &&
      !Text.endsWith "ss" (stem ++ ['s'])) = true := by
    rw [Bool.and_eq_true, Bool.not_eq_true', Text.endsWith_iff, Bool.eq_false_iff, Ne,
      Text.endsWith_iff]
    exact ⟨List.suffix_append _ _, pair⟩
  unfold singularise at same
  split at same
  · rw [← same] at last
    simp at last
  · split at same
    · have shorter := congrArg List.length same
      simp at shorter
      omega
    · simp at same

/-! ## Plurals of plurals -/

theorem length_pluralise_le (s : Text) : (pluralise s).length ≤ s.length + 2 := by
  rcases pluralise_cases s with ⟨stem, rfl, -, plural⟩ | ⟨_, _, -, -, plural⟩ | plural <;>
    simp [plural]

theorem length_pluralise_s (stem : Text) :
    (pluralise (stem ++ ['s'])).length = stem.length + 3 := by
  rw [pluralise_sibilant (by decide)]
  simp

/-- The plural of a plural is longer than the plural. -/
theorem length_pluralise_singularise_lt (plural : singularise s ≠ s) :
    (pluralise (singularise s)).length < (pluralise s).length := by
  have bound := length_pluralise_le (singularise s)
  rcases singularise_cases s with ⟨stem, rfl, single⟩ | ⟨stem, ending, -, rfl, single⟩ |
    ⟨stem, rfl, single⟩ | single
  · have long := length_pluralise_s (stem ++ "ie")
    rw [single] at bound ⊢
    simp at bound long ⊢
    omega
  · have long := length_pluralise_s (stem ++ ending ++ "e")
    rw [single] at bound ⊢
    simp at bound long ⊢
    omega
  · have long := length_pluralise_s stem
    rw [single] at bound ⊢
    omega
  · exact absurd single plural

end Naming

/-! ## Accepted names -/

namespace Naming

variable {s t : Text}

/-- A letter with letters and digits after it. -/
def IsWord (s : Text) : Prop := ∃ c t, s = c :: t ∧ c.isAlpha = true ∧ Alphanumeric t

theorem IsWord.alphanumeric (word : IsWord s) : Alphanumeric s := by
  obtain ⟨c, t, rfl, letter, rest⟩ := word
  intro d member
  rcases List.mem_cons.1 member with rfl | member
  · simp [Char.isAlphanum, letter]
  · exact rest d member

theorem IsWord.append (word : IsWord s) (letters : Alphanumeric t) : IsWord (s ++ t) := by
  obtain ⟨c, rest, rfl, letter, others⟩ := word
  exact ⟨c, rest ++ t, rfl, letter, others.append letters⟩

/-- A beginning of a word is a word. -/
theorem IsWord.of_append (word : IsWord (s ++ t)) (nonempty : s ≠ []) : IsWord s := by
  obtain ⟨c, rest, cut, letter, others⟩ := word
  obtain ⟨d, s, rfl⟩ := List.exists_cons_of_ne_nil nonempty
  obtain ⟨rfl, rfl⟩ := List.cons.inj cut
  exact ⟨d, s, rfl, letter, others.of_append.1⟩

/-- An identifier that no line feed ends is a word. -/
theorem isIdentifier_iff_isWord (line : s.getLast? ≠ some '\n') :
    isIdentifier (fun _ => true) s = true ↔ IsWord s := by
  rw [isIdentifier_iff]
  constructor
  · rintro ⟨c, t, rfl | rfl, letter, -, letters⟩
    · exact ⟨c, t, rfl, letter, letters⟩
    · exact absurd List.getLast?_concat line
  · rintro ⟨c, t, rfl, letter, letters⟩
    exact ⟨c, t, .inl rfl, letter, rfl, letters⟩

theorem IsWord.getLast?_ne (word : IsWord s) : s.getLast? ≠ some '\n' := fun last =>
  absurd (word.alphanumeric _ (List.mem_of_getLast? last)) (by decide)

/-- A word is accepted unless it is reserved. -/
theorem IsWord.accepted (word : IsWord s) (free : Text.lower s ∉ reservedModelNames) :
    checkModelName s = .ok () :=
  checkModelName_eq_ok_iff.2 ⟨(isIdentifier_iff_isWord word.getLast?_ne).2 word, free⟩

theorem IsWord.getLast?_lower (word : IsWord s) :
    (Text.lower s).getLast? = s.getLast?.map Char.toLower := by
  rw [Text.lower_of_plain word.alphanumeric.plain, List.getLast?_map]

/-- The letters that end singulars of words that lose more than an `s`. -/
def singularEnds : List (Option Char) := "yxhs".toList.map some

/-- No reserved word ends so. -/
theorem IsWord.accepted_of_ending (word : IsWord s) (ending : s.getLast? ∈ singularEnds) :
    checkModelName s = .ok () := by
  refine word.accepted fun reserved => ?_
  have others : ∀ word ∈ reservedModelNames, word.getLast? ∉ singularEnds := by decide
  have small : ∀ last ∈ singularEnds, last.map Char.toLower = last := by decide
  refine others _ reserved ?_
  rwa [word.getLast?_lower, small _ ending]

end Naming

/-! ## Names that are lost -/

open Naming

/-- The name loses an `s` in the singular, and what is left names no model: it is nothing, or a
    reserved word. -/
def LosesName (name : Text) : Prop :=
  ∃ stem, name = stem ++ ['s'] ∧ (stem = [] ∨ Text.lower stem ∈ reservedModelNames)

theorem isWord_of_checkModelName {name : Text} (valid : checkModelName name = .ok ())
    (line : name.getLast? ≠ some '\n') : IsWord name :=
  (isIdentifier_iff_isWord line).1 (checkModelName_eq_ok_iff.1 valid).1

/-- An accepted name has an accepted singular, or it loses its name. -/
theorem accepted_or_losesName {name : Text} (valid : checkModelName name = .ok ()) :
    checkModelName (singularise name) = .ok () ∨ LosesName name := by
  -- where more than an `s` goes, the last letter that is left ends no reserved word
  rcases singularise_cases name with ⟨stem, rfl, single⟩ | ⟨stem, ending, sibilant, rfl, single⟩ |
    ⟨stem, rfl, single⟩ | single
  · left
    rw [single]
    have word := isWord_of_checkModelName valid (by simp)
    have singular : IsWord (stem ++ ['y']) := by
      by_cases empty : stem = []
      · subst empty
        exact ⟨'y', [], rfl, rfl, by simp [Alphanumeric]⟩
      · exact (word.of_append empty).append (by simp [Alphanumeric])
    exact singular.accepted_of_ending (by rw [List.getLast?_concat]; decide)
  · left
    rw [single]
    have word := isWord_of_checkModelName valid (by simp)
    have endings : ∀ ending ∈ singularSibilants,
        ending ≠ [] ∧ ending.getLast? ∈ singularEnds := by
      decide
    obtain ⟨nonempty, last⟩ := endings ending sibilant
    have singular : IsWord (stem ++ ending) := word.of_append (by simp [nonempty])
    rw [← List.getLast?_append_of_ne_nil stem nonempty] at last
    exact singular.accepted_of_ending last
  · rw [single]
    by_cases lost : LosesName (stem ++ ['s'])
    · exact .inr lost
    · left
      have word := isWord_of_checkModelName valid (by simp)
      have nonempty : stem ≠ [] := fun empty => lost ⟨stem, rfl, .inl empty⟩
      exact (word.of_append nonempty).accepted fun reserved => lost ⟨stem, rfl, .inr reserved⟩
  · left
    rwa [single]

/-- The singular of a plural in `s` of a reserved word is the reserved word. -/
theorem singularise_of_reserved {stem : Text} (word : IsWord (stem ++ ['s']))
    (reserved : Text.lower stem ∈ reservedModelNames) : singularise (stem ++ ['s']) = stem := by
  refine singularise_s fun ending listed ⟨front, cut⟩ => ?_
  have absent : ∀ word ∈ reservedModelNames,
      ∀ ending ∈ ["ie", "xe", "che", "she", "sse", "s"].map String.toList,
        ¬ ending.map Char.toLower <:+ word := by
    decide +kernel
  refine absent _ reserved ending listed ?_
  rw [Text.lower_of_plain word.alphanumeric.of_append.1.plain, ← cut, List.map_append]
  exact List.suffix_append _ _

/-- The singular of an accepted name is accepted unless it loses its name. -/
theorem singular_accepted_iff {name : Text} (valid : checkModelName name = .ok ()) :
    checkModelName (ModelNames.ofName name).singular = .ok () ↔ ¬ LosesName name := by
  constructor
  · rintro accepted ⟨stem, rfl, empty | reserved⟩
    · subst empty
      exact absurd accepted (by decide)
    · have word := isWord_of_checkModelName valid (by simp)
      have single : (ModelNames.ofName (stem ++ ['s'])).singular = stem :=
        singularise_of_reserved word reserved
      rw [single] at accepted
      exact (checkModelName_eq_ok_iff.1 accepted).2 reserved
  · exact fun kept => (accepted_or_losesName valid).resolve_right kept

end Groundwork
