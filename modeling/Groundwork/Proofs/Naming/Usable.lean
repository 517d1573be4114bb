import Groundwork.Proofs.Naming.Singular

/-!
# Spellings that are usable

The spellings of an accepted name stand in code as identifiers and in paths as names of
directories. They are fit for that but for two kinds of names (`usable_iff`): a line feed that ends
the name stands in all of them, and the name `s` has no singular.
-/

namespace Groundwork

namespace Naming

variable {s t : Text}

/-- A letter with letters, digits and hyphens after it. -/
def IsSlug (s : Text) : Prop :=
  ∃ c t, s = c :: t ∧ c.isAlpha = true ∧ ∀ d ∈ t, d.isAlphanum = true ∨ d = '-'

theorem not_isWord_nil : ¬ IsWord [] := by
  rintro ⟨c, t, cut, -⟩
  cases cut

/-! ## Words stay words -/

theorem isAlpha_toUpper {c : Char} (letter : c.isAlpha = true) : c.toUpper.isAlpha = true := by
  by_cases lower : c.isLower = true
  · simp [Char.isAlpha, lower]
  · rwa [Char.toUpper_eq_of_not_isLower lower]

theorem isAlpha_toLower {c : Char} (letter : c.isAlpha = true) : c.toLower.isAlpha = true := by
  by_cases upper : c.isUpper = true
  · simp [Char.isAlpha, upper]
  · rwa [Char.toLower_eq_of_not_isUpper upper]

theorem IsWord.pascal (word : IsWord s) : IsWord (pascal s) := by
  have letters := word.alphanumeric.isNameChar
  obtain ⟨c, t, rfl, letter, rest⟩ := word
  rw [pascal_of_isNameChar letters]
  exact ⟨c.toUpper, t, rfl, isAlpha_toUpper letter, rest⟩

theorem IsWord.camel (word : IsWord s) : IsWord (camel s) := by
  have letters := word.alphanumeric.isNameChar
  obtain ⟨c, t, rfl, letter, rest⟩ := word
  rw [camel_of_isNameChar letters]
  exact ⟨c.toLower, t, rfl, isAlpha_toLower letter, rest⟩

/-- The path of a word is made of its letters and digits in small, with hyphens between them. -/
theorem IsWord.kebab (word : IsWord s) : IsSlug (kebab s) := by
  have letters := word.alphanumeric.isNameChar
  obtain ⟨c, t, rfl, letter, rest⟩ := word
  have first := isAlpha_toLower letter
  have joined : c.toLower ≠ '_' := by
    intro low
    rw [low] at first
    exact absurd first (by decide)
  have plain : Text.Plain ((markCapitals t).map Char.toLower) := by
    have marked := Plain.markCapitals (Alphanumeric.plain rest)
    rw [← Text.lower_of_plain marked]
    exact marked.lower
  refine ⟨c.toLower, ((markCapitals t).map Char.toLower).map fun d => if d = '_' then '-' else d,
    ?_, first, ?_⟩
  · rw [Naming.kebab, snake_of_isNameChar letters, List.map_cons, if_neg joined]
  · intro d member
    obtain ⟨e, inside, rfl⟩ := List.mem_map.1 member
    by_cases low : e = '_'
    · exact .inr (if_pos low)
    · rw [if_neg low]
      left
      simpa [Text.isPlain, low] using plain e inside

/-- The plural of a word is a word. -/
theorem IsWord.pluralise (word : IsWord s) : IsWord (pluralise s) := by
  have small {ending : Text} (letters : ending.all Char.isLower = true) : Alphanumeric ending :=
    (isSmall_of_all letters).alphanumeric
  rcases pluralise_cases s with ⟨stem, rfl, -, plural⟩ | ⟨_, _, -, -, plural⟩ | plural
  · rw [plural]
    by_cases empty : stem = []
    · subst empty
      exact ⟨'i', "es", rfl, rfl, small rfl⟩
    · exact (word.of_append empty).append (small rfl)
  · rw [plural]
    exact word.append (small rfl)
  · rw [plural]
    exact word.append (small rfl)

/-- The singular of a word is a word, unless the word is the letter that makes a plural. -/
theorem IsWord.singularise (word : IsWord s) (other : s ≠ ['s']) : IsWord (singularise s) := by
  rcases singularise_cases s with ⟨stem, rfl, single⟩ | ⟨stem, ending, sibilant, rfl, single⟩ |
    ⟨stem, rfl, single⟩ | single
  · rw [single]
    by_cases empty : stem = []
    · subst empty
      exact ⟨'y', [], rfl, rfl, by simp [Alphanumeric]⟩
    · exact (word.of_append empty).append (by simp [Alphanumeric])
  · rw [single]
    have nonempty : ∀ ending ∈ singularSibilants, ending ≠ [] := by decide
    exact word.of_append (by simp [nonempty ending sibilant])
  · rw [single]
    refine word.of_append ?_
    rintro rfl
    exact other rfl
  · rwa [single]

/-! ## Line feeds -/

theorem feed_mem_pluralise (feed : '\n' ∈ s) : '\n' ∈ pluralise s := by
  rcases pluralise_cases s with ⟨stem, rfl, -, plural⟩ | ⟨_, _, -, -, plural⟩ | plural
  · rw [plural]
    refine List.mem_append_left _ ?_
    simpa using feed
  · rw [plural]
    exact List.mem_append_left _ feed
  · rw [plural]
    exact List.mem_append_left _ feed

/-- A line feed stays in the spelling in capitals, which then is no word. -/
theorem not_isWord_pascal (letters : ∀ c ∈ s, IsNameChar c) (feed : '\n' ∈ s) :
    ¬ IsWord (pascal s) := by
  intro word
  have inside : '\n' ∈ pascal s := by
    cases s with
    | nil => simp at feed
    | cons c s =>
      rw [pascal_of_isNameChar letters]
      rcases List.mem_cons.1 feed with rfl | later
      · exact List.mem_cons_self
      · exact List.mem_cons_of_mem _ later
  exact absurd (word.alphanumeric _ inside) (by decide)

/-- A line feed ends the accepted name that it stands in, so the name is its own singular. -/
theorem singularise_of_feed (valid : checkModelName s = .ok ()) (feed : '\n' ∈ s) :
    singularise s = s := by
  refine singularise_of_isSingular (.inl fun last => ?_)
  have word := isWord_of_checkModelName valid (by simp [last])
  exact absurd (word.alphanumeric _ feed) (by decide)

end Naming

/-! ## Usable names -/

open Naming

namespace ModelNames

/-- The spellings of the plural can stand for a table in code and for a directory. -/
structure PluralUsable (names : ModelNames) : Prop where
  pascal : IsWord names.pascalPlural
  camel : IsWord names.camelPlural
  path : IsSlug names.kebabPlural

/-- The spellings of the singular can stand for a type and for a row in code. -/
structure SingularUsable (names : ModelNames) : Prop where
  pascal : IsWord names.pascal
  camel : IsWord names.camel

theorem pluralUsable_of_isWord {name : Text} (word : IsWord (ofName name).plural) :
    (ofName name).PluralUsable :=
  ⟨word.pascal, word.camel, word.kebab⟩

/-- The spellings of an accepted name in the plural are usable exactly if no line feed stands in
    the name, and those in the singular exactly if the name is not `s` besides. -/
theorem usable_iff {name : Text} (valid : checkModelName name = .ok ()) :
    ((ofName name).PluralUsable ↔ '\n' ∉ name) ∧
      ((ofName name).SingularUsable ↔ '\n' ∉ name ∧ name ≠ "s".toList) := by
  have letters := isNameChar_of_checkModelName valid
  have single := isNameChar_singularise letters
  have word (line : '\n' ∉ name) : IsWord name :=
    isWord_of_checkModelName valid fun last => line (List.mem_of_getLast? last)
  refine ⟨⟨fun usable feed => ?_, fun line => pluralUsable_of_isWord ?_⟩,
    ⟨fun usable => ⟨fun feed => ?_, ?_⟩, fun ⟨line, other⟩ => ?_⟩⟩
  · refine not_isWord_pascal (isNameChar_pluralise single) (feed_mem_pluralise ?_) usable.pascal
    rwa [singularise_of_feed valid feed]
  · by_cases letter : name = ['s']
    · subst letter
      exact ⟨'s', [], rfl, rfl, by simp [Alphanumeric]⟩
    · exact ((word line).singularise letter).pluralise
  · refine not_isWord_pascal single ?_ usable.pascal
    rwa [singularise_of_feed valid feed]
  · rintro rfl
    exact not_isWord_nil usable.pascal
  · have singular := (word line).singularise other
    exact ⟨singular.pascal, singular.camel⟩

/-- Categories and their singular are usable. -/
theorem categories_usable :
    checkModelName "blogCategories" = .ok () ∧ (ofName "blogCategories").PluralUsable ∧
      (ofName "blogCategories").SingularUsable := by
  have valid : checkModelName "blogCategories" = .ok () := by decide
  obtain ⟨plural, singular⟩ := usable_iff valid
  exact ⟨valid, plural.2 (by decide), singular.2 (by decide)⟩

/-- A name that ends in a line feed is accepted, and stands so in code; the name `s` is accepted,
    and there is nothing to stand in code. -/
theorem feed_and_s_unusable :
    checkModelName "post\n" = .ok () ∧ (ofName "post\n").pascal = "Post\n".toList ∧
      ¬ (ofName "post\n").PluralUsable ∧
      checkModelName "s" = .ok () ∧ (ofName "s").pascal = [] ∧ ¬ (ofName "s").SingularUsable := by
  refine ⟨by decide, by decide, ?_, by decide, by decide, ?_⟩
  · intro usable
    have inside : '\n' ∈ (ofName "post\n").pascalPlural := by decide
    exact absurd (usable.pascal.alphanumeric _ inside) (by decide)
  · exact fun usable => not_isWord_nil usable.pascal

end ModelNames

end Groundwork
