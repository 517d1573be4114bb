import Groundwork.Proofs.Field.Parsed

/-!
# Names that were accepted

What the commands need to know of a model's name that passed its check: the singular has no
singular of its own, so its files have the same place (`kebabPlural_singular`), the spelling
for headings is no markup (`pascal_unmarked`), and the spellings that stand in pages are plain
(`titled_ofName`).
-/

namespace Groundwork

namespace Naming

variable {s : Text}

/-! ## Singulars -/

/-- The word has no plural ending: it ends in `ss` or in another letter than `s`. -/
def IsSingular (s : Text) : Prop := s.getLast? ≠ some 's' ∨ ['s', 's'] <:+ s

theorem not_endsWith_of_isSingular (singular : IsSingular s) {ending : Text}
    (plural : ['e', 's'] <:+ ending) : Text.endsWith ending s = false := by
  rw [Bool.eq_false_iff, Ne, Text.endsWith_iff]
  intro ends
  have last : ['e', 's'] <:+ s := plural.trans ends
  rcases singular with other | pair
  · obtain ⟨front, rfl⟩ := last
    simp at other
  · have same : ['e', 's'] = ['s', 's'] :=
      (List.suffix_of_suffix_length_le last pair (Nat.le_refl 2)).eq_of_length rfl
    exact absurd same (by decide)

theorem singularise_of_isSingular (singular : IsSingular s) : singularise s = s := by
  have noStem : Text.before? "ies" s = none := by
    have ends := not_endsWith_of_isSingular singular (show _ <:+ "ies".toList by decide)
    rwa [Text.endsWith_eq_false_iff] at ends
  have noEnding : (["xes", "ches", "shes", "sses"].any fun ending =>
      Text.endsWith ending s) = false := by
    rw [List.any_eq_false]
    intro ending member
    have plural : ∀ ending ∈ ["xes", "ches", "shes", "sses"],
        ['e', 's'] <:+ ending.toList := by decide
    rw [not_endsWith_of_isSingular singular (plural ending member)]
    decide
  have noLetter : (Text.endsWith "s" s && !Text.endsWith "ss" s) = false := by
    rw [Bool.and_eq_false_iff, Bool.not_eq_false', Text.endsWith_iff]
    rcases singular with other | pair
    · left
      rw [Bool.eq_false_iff, Ne, Text.endsWith_iff]
      rintro ⟨front, rfl⟩
      simp at other
    · exact .inr pair
  unfold singularise
  rw [noStem]
  dsimp only
  rw [noEnding, noLetter]
  rfl

/-- Only words without plural ending are left as they are. -/
theorem isSingular_or_eq (s : Text) : IsSingular (singularise s) ∨ singularise s = s := by
  unfold singularise
  split
  · next stem found => exact .inl (.inl (by simp))
  · split
    · next plural =>
      left
      obtain ⟨word, member, ends⟩ := List.any_eq_true.1 plural
      have stems : ∀ word ∈ ["xes", "ches", "shes", "sses"], 2 ≤ word.toList.length ∧
          (word.toList.take (word.toList.length - 2) ≠ [] ∧
            (word.toList.take (word.toList.length - 2)).getLast? ≠ some 's' ∨
              ['s', 's'] <:+ word.toList.take (word.toList.length - 2)) := by decide
      obtain ⟨long, stem⟩ := stems word member
      generalize word.toList = ending at ends long stem
      obtain ⟨front, rfl⟩ := Text.endsWith_iff.1 ends
      have cut : (front ++ ending).take ((front ++ ending).length - 2) =
          front ++ ending.take (ending.length - 2) := by
        have count : (front ++ ending).length - 2 = front.length + (ending.length - 2) := by
          rw [List.length_append]
          omega
        rw [count, List.take_length_add_append]
      rw [cut]
      rcases stem with ⟨nonempty, other⟩ | pair
      · left
        rwa [List.getLast?_append_of_ne_nil _ nonempty]
      · exact .inr (pair.trans (List.suffix_append _ _))
    · split
      · next single =>
        left; left
        rw [Bool.and_eq_true, Text.endsWith_iff] at single
        obtain ⟨⟨front, rfl⟩, noPair⟩ := single
        intro last
        obtain ⟨stem, rfl⟩ : ∃ stem, front = stem ++ ['s'] := by
          have whole : (front ++ "s".toList).dropLast = front := List.dropLast_concat
          rw [whole] at last
          exact ⟨front.dropLast, (List.dropLast_append_getLast? _ last).symm⟩
        have pair : Text.endsWith "ss" (stem ++ ['s'] ++ "s".toList) = true :=
          Text.endsWith_iff.2 ⟨stem, by simp⟩
        rw [pair] at noPair
        cases noPair
      · exact .inr rfl

/-- The singular of a noun is its own singular. -/
theorem singularise_singularise (s : Text) : singularise (singularise s) = singularise s := by
  rcases isSingular_or_eq s with singular | same
  · exact singularise_of_isSingular singular
  · rw [same, same]

/-! ## Headings -/

theorem mem_singularise {c : Char} (member : c ∈ singularise s) : c ∈ s ∨ c = 'y' := by
  unfold singularise at member
  split at member
  · next stem found =>
    rw [Text.before?_eq_some_iff] at found
    rcases List.mem_append.1 member with inside | inside
    · exact .inl (found ▸ List.mem_append_left _ inside)
    · exact .inr (List.mem_singleton.1 inside)
  · split at member
    · exact .inl (List.mem_of_mem_take member)
    · split at member
      · exact .inl (List.mem_of_mem_dropLast member)
      · exact .inl member

end Naming

/-- The characters of accepted names: letters and digits, and a line feed that may end them. -/
def IsNameChar (c : Char) : Prop := c.isAlphanum = true ∨ c = '\n'

instance (c : Char) : Decidable (IsNameChar c) :=
  inferInstanceAs (Decidable (c.isAlphanum = true ∨ c = '\n'))

theorem not_mem_of_isNameChar {s : Text} (letters : ∀ c ∈ s, IsNameChar c) {d : Char}
    (other : ¬ IsNameChar d) : d ∉ s :=
  fun member => other (letters d member)

/-- After its first letter an identifier has characters of names. -/
theorem cons_of_isIdentifier {first : Char → Bool} {name : Text}
    (identifier : isIdentifier first name = true) :
    ∃ c s, name = c :: s ∧ c.isAlpha = true ∧ first c = true ∧ ∀ d ∈ s, IsNameChar d := by
  obtain ⟨c, s, rfl | rfl, letter, head, letters⟩ := isIdentifier_iff.1 identifier
  · exact ⟨c, s, rfl, letter, head, fun d member => .inl (letters d member)⟩
  · refine ⟨c, s ++ ['\n'], rfl, letter, head, fun d member => ?_⟩
    rcases List.mem_append.1 member with inside | feed
    · exact .inl (letters d inside)
    · exact .inr (List.mem_singleton.1 feed)

theorem isNameChar_of_isIdentifier {first : Char → Bool} {name : Text}
    (identifier : isIdentifier first name = true) : ∀ c ∈ name, IsNameChar c := by
  obtain ⟨c, s, rfl, letter, -, rest⟩ := cons_of_isIdentifier identifier
  intro d member
  rcases List.mem_cons.1 member with rfl | member
  · exact .inl (by simp [Char.isAlphanum, letter])
  · exact rest d member

theorem isNameChar_of_checkModelName {name : Text} (valid : checkModelName name = .ok ()) :
    ∀ c ∈ name, IsNameChar c :=
  isNameChar_of_isIdentifier (isIdentifier_of_checkModelName valid)

namespace IsNameChar

variable {c : Char}

theorem ascii (letter : IsNameChar c) : c.toNat < 128 := by
  rcases letter with letter | rfl
  · exact Text.toNat_lt_of_isPlain (by simp [Text.isPlain, letter])
  · decide

theorem not_isSeparator (letter : IsNameChar c) : Naming.isSeparator c = false := by
  rcases letter with letter | rfl
  · exact Naming.not_isSeparator_of_isAlphanum letter
  · decide

theorem toUpper (letter : IsNameChar c) : IsNameChar c.toUpper := by
  rcases letter with letter | rfl
  · left
    by_cases lower : c.isLower = true
    · simp [Char.isAlphanum, Char.isAlpha, lower]
    · rwa [Char.toUpper_eq_of_not_isLower lower]
  · exact .inr rfl

theorem toLower (letter : IsNameChar c) : IsNameChar c.toLower := by
  rcases letter with letter | rfl
  · left
    by_cases upper : c.isUpper = true
    · simp [Char.isAlphanum, Char.isAlpha, upper]
    · rwa [Char.toLower_eq_of_not_isUpper upper]
  · exact .inr rfl

end IsNameChar

namespace Naming

variable {c : Char} {s : Text}

theorem isNameChar_singularise (letters : ∀ c ∈ s, IsNameChar c) :
    ∀ c ∈ singularise s, IsNameChar c := by
  intro c member
  rcases mem_singularise member with inside | rfl
  · exact letters c inside
  · exact .inl rfl

/-- The spelling in capitals of a word of accepted characters. -/
theorem pascal_of_isNameChar (letters : ∀ d ∈ c :: s, IsNameChar d) :
    pascal (c :: s) = c.toUpper :: s := by
  rw [pascal, raiseWords_of_joined fun d member => (letters d member).not_isSeparator,
    Text.capitalise, Text.upperChar_of_ascii (letters c (by simp)).ascii]
  rfl

/-- The spelling `blogPost` lowers the first letter. -/
theorem camel_of_isNameChar (letters : ∀ d ∈ c :: s, IsNameChar d) :
    camel (c :: s) = c.toLower :: s := by
  have raised := (letters c (by simp)).toUpper
  rw [camel, pascal_of_isNameChar letters, Text.uncapitalise, Text.lowerChar_of_ascii raised.ascii,
    Char.toLower_toUpper_eq_toLower]
  rfl

theorem length_camel (letters : ∀ d ∈ s, IsNameChar d) : (camel s).length = s.length := by
  cases s with
  | nil => rfl
  | cons c s => rw [camel_of_isNameChar letters, List.length_cons, List.length_cons]

theorem isNameChar_pascal (letters : ∀ d ∈ s, IsNameChar d) : ∀ d ∈ pascal s, IsNameChar d := by
  cases s with
  | nil => simp [pascal, raiseWords, Text.capitalise]
  | cons c s =>
    rw [pascal_of_isNameChar letters]
    exact List.forall_mem_cons.2 ⟨(letters c (by simp)).toUpper, (List.forall_mem_cons.1 letters).2⟩

theorem isNameChar_camel (letters : ∀ d ∈ s, IsNameChar d) : ∀ d ∈ camel s, IsNameChar d := by
  cases s with
  | nil => simp [camel, pascal, raiseWords, Text.capitalise, Text.uncapitalise]
  | cons c s =>
    rw [camel_of_isNameChar letters]
    exact List.forall_mem_cons.2 ⟨(letters c (by simp)).toLower, (List.forall_mem_cons.1 letters).2⟩

end Naming

namespace ModelNames

open Naming

/-- The singular of a name has its files in the same directory. -/
theorem kebabPlural_singular (name : Text) :
    (ofName (ofName name).singular).kebabPlural = (ofName name).kebabPlural := by
  unfold ofName
  dsimp only
  rw [singularise_singularise]

/-- The spelling of an accepted name for headings is no markup. -/
theorem pascal_unmarked {name : Text} (valid : checkModelName name = .ok ()) :
    ∀ c ∈ (ofName name).pascal, IsNameChar c :=
  isNameChar_pascal (isNameChar_singularise (isNameChar_of_checkModelName valid))

/-! ## Pages -/

/-- The spellings of a name that stand in pages are plain, apart from hyphens in paths. -/
structure Titled (names : ModelNames) : Prop where
  pascal : Text.Plain names.pascal
  pascalPlural : Text.Plain names.pascalPlural
  camel : Text.Plain names.camel
  path : ∀ c ∈ names.kebabPlural, Text.isPlain c = true ∨ c = '-'

theorem titled_ofName {name : Text} (plain : Text.Plain name) : (ofName name).Titled where
  pascal := Plain.pascal (Plain.singularise plain)
  pascalPlural := Plain.pascal (Plain.pluralise (Plain.singularise plain))
  camel := Plain.camel (Plain.singularise plain)
  path := by
    intro c member
    obtain ⟨d, inside, rfl⟩ := List.mem_map.1 member
    split_ifs
    · exact .inr rfl
    · exact .inl (Plain.snake (Plain.pluralise (Plain.singularise plain)) d inside)

theorem Titled.not_mem_path {names : ModelNames} (titled : names.Titled) {c : Char}
    (other : Text.isPlain c = false) (noHyphen : c ≠ '-') : c ∉ names.kebabPlural := by
  intro member
  rcases titled.path c member with plain | hyphen
  · simp [plain] at other
  · exact noHyphen hyphen

end ModelNames

end Groundwork
