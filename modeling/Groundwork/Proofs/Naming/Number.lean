import Groundwork.Proofs.Naming.Steady

/-!
# Names in the plural

A model may be named in the singular or in the plural. The singular of a noun's plural is the noun,
or a shorter noun with the same plural: the singular of `caches` is `cach`
(`singularise_pluralise_cases`). The two spellings name one model, with one table and one
directory, but for nouns in which `ie` stands after a vowel (`plural_names_model_iff`).
-/

namespace Groundwork

namespace Naming

variable {s t : Text}

/-! ## Singulars of plurals -/

theorem singularise_ies (stem : Text) : singularise (stem ++ "ies") = stem ++ ['y'] := by
  unfold singularise
  rw [Text.before?_eq_some_iff.2 rfl]
  rfl

/-- A noun with a sibilant at its end is the singular of its plural in `es`. -/
theorem singularise_es {ending : Text} (sibilant : ending ∈ singularSibilants) (stem : Text) :
    singularise (stem ++ ending ++ "es") = stem ++ ending := by
  have words : ∀ ending ∈ singularSibilants, ending ≠ [] ∧ ending.getLast? ≠ some 'i' ∧
      ∃ word ∈ ["xes", "ches", "shes", "sses"], word.toList = ending ++ "es" := by decide
  obtain ⟨nonempty, other, word, listed, cut⟩ := words ending sibilant
  have noStem : Text.before? "ies" (stem ++ ending ++ "es") = none := by
    refine Option.eq_none_iff_forall_ne_some.2 fun front found => other ?_
    have same : stem ++ ending ++ "es" = front ++ ['i'] ++ "es" := by
      rw [Text.before?_eq_some_iff.1 found, List.append_assoc front]
      rfl
    rw [← List.getLast?_append_of_ne_nil stem nonempty, List.append_cancel_right same,
      List.getLast?_concat]
  have ends : ["xes", "ches", "shes", "sses"].any
      (fun ending' => Text.endsWith ending' (stem ++ ending ++ "es")) = true := by
    refine List.any_eq_true.2 ⟨word, listed, Text.endsWith_iff.2 ?_⟩
    rw [cut, List.append_assoc]
    exact List.suffix_append _ _
  have count : (stem ++ ending ++ "es").length - 2 = (stem ++ ending).length := by
    rw [List.length_append]
    exact Nat.add_sub_cancel _ 2
  unfold singularise
  rw [noStem]
  dsimp only
  rw [if_pos ends, count, List.take_left]

/-- A sibilant that ends a singular stays where its plural loses the `es`. -/
theorem exists_singularSibilant {stem ending : Text} (singular : IsSingular (stem ++ ending))
    (sibilant : ending ∈ sibilants) :
    ∃ front, ∃ ending' ∈ singularSibilants, stem ++ ending = front ++ ending' := by
  have among : ∀ ending ∈ sibilants, ending = ['s'] ∨ ending ∈ singularSibilants := by decide
  rcases among ending sibilant with rfl | kept
  · rcases singular with other | ⟨front, pair⟩
    · simp at other
    · exact ⟨front, ['s', 's'], by decide, pair.symm⟩
  · exact ⟨stem, ending, kept, rfl⟩

theorem not_endsWith_ie {c : Char} (other : c ≠ 'e') (stem : Text) :
    ¬ "ie".toList <:+ stem ++ [c] := by
  rintro ⟨front, same⟩
  have cut : (front ++ ['i']) ++ ['e'] = stem ++ [c] := by
    rw [List.append_assoc]
    exact same
  exact other (List.singleton_inj.1 (List.append_inj' cut rfl).2).symm

/-- The singular of a noun's plural: a noun in `ie` gets a `y`, an `e` after a sibilant goes, and
    all other nouns are found again. -/
theorem singularise_pluralise_cases (singular : IsSingular s) :
    (∃ stem, s = stem ++ "ie" ∧ singularise (pluralise s) = stem ++ ['y']) ∨
    (∃ stem, ∃ ending ∈ singularSibilants, s = stem ++ ending ++ "e" ∧
      singularise (pluralise s) = stem ++ ending) ∨
    ¬ "ie".toList <:+ s ∧ singularise (pluralise s) = s := by
  rcases pluralise_cases s with ⟨stem, rfl, -, plural⟩ | ⟨stem, ending, sibilant, rfl, plural⟩ |
    plural
  · right; right
    rw [plural, singularise_ies]
    exact ⟨not_endsWith_ie (by decide) stem, rfl⟩
  · right; right
    obtain ⟨front, ending', kept, cut⟩ := exists_singularSibilant singular sibilant
    obtain ⟨letters, c, rfl, letter⟩ := sibilant_concat sibilant
    have other : c ≠ 'e' := by
      rintro rfl
      simp at letter
    refine ⟨?_, by rw [plural, cut, singularise_es kept]⟩
    rw [← List.append_assoc]
    exact not_endsWith_ie other _
  · rw [plural]
    by_cases ie : "ie".toList <:+ s
    · left
      obtain ⟨stem, rfl⟩ := ie
      refine ⟨stem, rfl, ?_⟩
      rw [List.append_assoc]
      exact singularise_ies stem
    by_cases e : ∃ ending ∈ singularSibilants, ending ++ ['e'] <:+ s
    · right; left
      obtain ⟨ending, kept, stem, rfl⟩ := e
      refine ⟨stem, ending, kept, (List.append_assoc ..).symm, ?_⟩
      rw [← List.append_assoc, List.append_assoc (stem ++ ending)]
      exact singularise_es kept stem
    · right; right
      have noS : ¬ ['s'] <:+ s := by
        rintro ⟨stem, rfl⟩
        rw [pluralise_sibilant (by decide)] at plural
        simpa using congrArg List.length plural
      have longer : ∀ ending ∈ ["ie", "xe", "che", "she", "sse", "s"].map String.toList,
          ending = "ie".toList ∨ (∃ kept ∈ singularSibilants, ending = kept ++ ['e']) ∨
            ending = ['s'] := by decide
      refine ⟨ie, singularise_s fun ending listed ends => ?_⟩
      rcases longer ending listed with rfl | ⟨kept, among, rfl⟩ | rfl
      · exact ie ends
      · exact e ⟨kept, among, ends⟩
      · exact noS ends

/-! ## Nouns with one plural -/

/-- A noun with the `e` of its plural has the same plural. -/
theorem pluralise_withE (takes : takesE s = true) : pluralise (withE s) = pluralise s := by
  rw [pluralise_eq, pluralise_eq, pluralStem_withE, pluralStem, if_pos takes]

/-- A noun with the `e` has the noun's table exactly if the noun takes the `e` in its table. -/
theorem pluralise_snake_withE_iff (letters : ∀ c ∈ s, IsNameChar c) :
    pluralise (snake s) = pluralise (snake (withE s)) ↔ takesE (snake s) = true := by
  rw [← withE_snake letters, pluralise_eq, pluralise_eq, List.append_left_inj, pluralStem_withE,
    pluralStem]
  by_cases takes : takesE (snake s) = true
  · rw [if_pos takes]
    exact iff_of_true rfl takes
  · rw [if_neg takes]
    exact iff_of_false (withE_ne_self _).symm takes

theorem takesE_of_sibilant {ending : Text} (sibilant : ending ∈ sibilants) (stem : Text) :
    takesE (stem ++ ending) = true := by
  have ends : sibilants.any (fun ending' => Text.endsWith ending' (stem ++ ending)) = true :=
    List.any_eq_true.2 ⟨ending, sibilant, Text.endsWith_iff.2 (List.suffix_append _ _)⟩
  rw [takesE, ends, Bool.or_true]

/-- The vowel letters, small and capital. -/
def vowels : List Char := ['a', 'e', 'i', 'o', 'u', 'A', 'E', 'I', 'O', 'U']

/-- The noun ends in `ie` after a vowel. -/
def EndsInVowelIe (s : Text) : Prop := ∃ c ∈ vowels, [c, 'i', 'e'] <:+ s

instance (s : Text) : Decidable (EndsInVowelIe s) :=
  decidable_of_iff (vowels.any fun c => [c, 'i', 'e'].isSuffixOf s) (by simp [EndsInVowelIe])

theorem EndsInVowelIe.ends (vowel : EndsInVowelIe s) : "ie".toList <:+ s := by
  obtain ⟨c, -, ends⟩ := vowel
  exact (List.suffix_cons c _).trans ends

theorem endsInVowelIe_concat (stem : Text) (c : Char) :
    EndsInVowelIe (stem ++ [c] ++ "ie") ↔ isVowel c.toLower = true := by
  have single (d : Char) : [d, 'i', 'e'] <:+ stem ++ [c] ++ "ie" ↔ d = c := by
    refine ⟨fun ends => ?_, ?_⟩
    · have own : [c, 'i', 'e'] <:+ stem ++ [c] ++ "ie" := by
        rw [List.append_assoc]
        exact List.suffix_append _ _
      have same := (List.suffix_of_suffix_length_le ends own (Nat.le_refl _)).eq_of_length rfl
      exact (List.cons.inj same).1
    · rintro rfl
      rw [List.append_assoc]
      exact List.suffix_append _ _
  simp only [EndsInVowelIe, single, exists_eq_right]
  rw [isVowel_toLower]
  simp [isVowel, vowels]
  grind

/-- A noun in `y` takes the `e` of its plural in its table exactly if the noun in `ie` has no vowel
    before it, and then it takes the `e` as it stands. -/
theorem takesE_snake_y_iff {stem : Text} (letters : ∀ c ∈ stem ++ ['y'], IsNameChar c) :
    (takesE (snake (stem ++ ['y'])) = true ↔ ¬ EndsInVowelIe (stem ++ "ie")) ∧
      (takesE (snake (stem ++ ['y'])) = true → takesE (stem ++ ['y']) = true) := by
  rcases List.eq_nil_or_concat stem with rfl | ⟨front, c, rfl⟩
  · have noVowel : ¬ EndsInVowelIe "ie" := by decide
    exact ⟨iff_of_true rfl noVowel, fun _ => rfl⟩
  · have cut : front.concat c ++ ['y'] = front ++ [c, 'y'] := by simp
    rw [cut] at letters ⊢
    rw [List.concat_eq_append, endsInVowelIe_concat]
    obtain ⟨other, spelled⟩ := snake_concat letters
    have small : ¬ 'y'.isUpper = true := by decide
    rw [spelled, if_neg small, takesE_concat, takesE_concat, if_pos rfl, if_pos rfl]
    have lowered := isVowel_toLower c
    grind

/-- A noun with an `e` after a sibilant has the plural and the table of the noun without it. -/
theorem withE_of_sibilant {stem ending : Text} (sibilant : ending ∈ sibilants)
    (letters : ∀ c ∈ stem ++ ending, IsNameChar c) :
    withE (stem ++ ending) = stem ++ ending ++ "e" ∧ takesE (snake (stem ++ ending)) = true ∧
      ¬ "ie".toList <:+ stem ++ ending ++ "e" := by
  have takes := takesE_of_sibilant sibilant stem
  obtain ⟨front, c, rfl, letter⟩ := sibilant_concat sibilant
  have others : c ≠ 'y' ∧ c ≠ 'Y' ∧ c ≠ 'i' := by
    simp only [List.mem_cons, List.not_mem_nil, or_false] at letter
    rcases letter with rfl | rfl | rfl <;> decide
  rw [← List.append_assoc] at letters takes ⊢
  have steady : endsInCapitalVowelY (stem ++ front ++ [c]) = false := by
    simp [endsInCapitalVowelY, others.1]
  refine ⟨withE_other others.1 others.2.1 _, takesE_snake letters steady takes, ?_⟩
  rintro ⟨rest, same⟩
  have cut : rest ++ ['i'] ++ ['e'] = stem ++ front ++ [c] ++ ['e'] := by
    rw [List.append_assoc rest]
    exact same
  have before := List.append_cancel_right cut
  exact others.2.2 (List.singleton_inj.1 (List.append_inj' before rfl).2).symm

/-- A singular and the singular of its plural have one table, and plurals of one spelling, exactly
    if the singular does not end in `ie` after a vowel. -/
theorem plural_again_iff (letters : ∀ c ∈ s, IsNameChar c) (singular : IsSingular s) :
    pluralise (snake (singularise (pluralise s))) = pluralise (snake s) ∧
        kebab (pluralise (singularise (pluralise s))) = kebab (pluralise s) ↔
      ¬ EndsInVowelIe s := by
  rcases singularise_pluralise_cases singular with ⟨stem, rfl, found⟩ |
    ⟨stem, ending, kept, rfl, found⟩ | ⟨noIe, found⟩
  · have front := (List.forall_mem_append.1 letters).1
    have lettersY : ∀ c ∈ stem ++ ['y'], IsNameChar c :=
      List.forall_mem_append.2 ⟨front, Alphanumeric.isNameChar (by simp [Alphanumeric])⟩
    obtain ⟨table, plural⟩ := takesE_snake_y_iff lettersY
    rw [found, ← table, ← withE_y, pluralise_snake_withE_iff lettersY]
    exact ⟨And.left, fun takes => ⟨takes, by rw [pluralise_withE (plural takes)]⟩⟩
  · have sibilantEnd : ∀ ending ∈ singularSibilants, ∃ last ∈ sibilants, last <:+ ending := by
      decide
    obtain ⟨last, sibilant, front, rfl⟩ := sibilantEnd ending kept
    rw [← List.append_assoc] at letters found ⊢
    have lettersT := (List.forall_mem_append.1 letters).1
    obtain ⟨with_e, table, noIe⟩ := withE_of_sibilant sibilant lettersT
    rw [found, ← with_e, pluralise_snake_withE_iff lettersT,
      pluralise_withE (takesE_of_sibilant sibilant _), with_e]
    exact iff_of_true ⟨table, rfl⟩ fun vowel => noIe vowel.ends
  · rw [found]
    exact iff_of_true ⟨rfl, rfl⟩ fun vowel => noIe vowel.ends

end Naming

/-! ## Models -/

namespace ModelNames

open Naming

/-- The plural of a model names the same model as its singular, with one table and one directory,
    exactly if the singular does not end in `ie` after a vowel. -/
theorem plural_names_model_iff {name : Text} (valid : checkModelName name = .ok ()) :
    (ofName (ofName name).plural).table = (ofName name).table ∧
        (ofName (ofName name).plural).kebabPlural = (ofName name).kebabPlural ↔
      ¬ EndsInVowelIe (ofName name).singular :=
  plural_again_iff (isNameChar_singularise (isNameChar_of_checkModelName valid))
    (singularise_eq_self_iff.1 (singularise_singularise name))

/-- Caches are named by their plural although its singular is `cach`; a `louie` is not, since the
    singular of its plural is `louy`, with the plural `louys`. -/
theorem caches_named_louies_not :
    checkModelName "pageCache" = .ok () ∧ (ofName "pageCaches").singular = "pageCach".toList ∧
      (ofName "pageCaches").table = (ofName "pageCache").table ∧
      (ofName "pageCaches").kebabPlural = (ofName "pageCache").kebabPlural ∧
      checkModelName "louie" = .ok () ∧
      ¬ ((ofName "louies").table = (ofName "louie").table ∧
        (ofName "louies").kebabPlural = (ofName "louie").kebabPlural) := by
  have valid : checkModelName "pageCache" = .ok () := by decide
  have valid' : checkModelName "louie" = .ok () := by decide
  obtain ⟨table, path⟩ := (plural_names_model_iff valid).2 (by decide)
  exact ⟨valid, by decide, table, path, valid', fun same =>
    (plural_names_model_iff valid').1 same (by decide)⟩

end ModelNames

end Groundwork
