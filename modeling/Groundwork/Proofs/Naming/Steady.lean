import Groundwork.Proofs.Naming.Singular

/-!
# One table for one exported name

A table is looked for under its own name, and code refers to it under the name it is exported by.
Both are spellings of a model's plural, but a letter that asks for an `e` in the plural may be a
capital in the one and small in the other. Two models have one table exactly if they are exported
under one name, unless such a letter tells them apart (`table_iff_camelPlural_iff`).
-/

namespace Groundwork

namespace Naming

variable {s t : Text}

/-! ## Steady nouns -/

/-- The endings whose plural depends on their case. -/
def unsteadyEndings : List Text := ["Ay", "Ey", "Iy", "Oy", "Uy", "Y", "S", "X", "Ch", "Sh"]

/-- The noun takes the `e` of its plural in every spelling or in none. -/
def IsSteady (s : Text) : Prop := ∀ ending ∈ unsteadyEndings, ¬ ending <:+ s

instance (s : Text) : Decidable (IsSteady s) :=
  inferInstanceAs (Decidable (∀ ending ∈ unsteadyEndings, ¬ ending <:+ s))

theorem isSteady_singleton (d : Char) : IsSteady [d] ↔ d ∉ ['Y', 'S', 'X'] := by
  unfold IsSteady unsteadyEndings
  simp only [← List.reverse_prefix]
  simp [List.cons_prefix_cons]
  grind

theorem isSteady_concat (stem : Text) (c d : Char) :
    IsSteady (stem ++ [c, d]) ↔ ¬ (d = 'y' ∧ c ∈ ['A', 'E', 'I', 'O', 'U']) ∧
      d ∉ ['Y', 'S', 'X'] ∧ ¬ (d = 'h' ∧ c ∈ ['C', 'S']) := by
  unfold IsSteady unsteadyEndings
  simp only [← List.reverse_prefix]
  simp [List.cons_prefix_cons]
  grind

theorem toLower_eq_iff {c d : Char} (small : d.isLower = true) :
    c.toLower = d ↔ c = d ∨ c = d.toUpper := by
  refine ⟨eq_or_eq_toUpper_of_toLower, ?_⟩
  have kept : d.toLower = d := Char.toLower_eq_of_not_isUpper (not_isUpper_of_isLower small)
  rintro (rfl | rfl)
  · exact kept
  · rw [Char.toLower_toUpper_eq_toLower, kept]

theorem isVowel_toLower (c : Char) :
    isVowel c.toLower = true ↔ isVowel c = true ∨ c ∈ ['A', 'E', 'I', 'O', 'U'] := by
  simp [isVowel, toLower_eq_iff]
  grind

theorem not_isVowel_of_capital {c : Char} (capital : c ∈ ['A', 'E', 'I', 'O', 'U']) :
    ¬ isVowel c = true := by
  simp only [List.mem_cons, List.not_mem_nil, or_false] at capital
  rcases capital with rfl | rfl | rfl | rfl | rfl <;> decide

/-- A capital is set off from the letter before it and then asks for the `e`, or does not, alone. -/
theorem takesE_set_off_iff (front : Text) (d : Char) :
    takesE (front ++ ['_', d.toLower]) = true ↔ takesE [d.toLower] = true := by
  rw [takesE_concat, takesE_singleton]
  by_cases y : d.toLower = 'y' <;> simp [y, isVowel]

theorem takesE_toLower_iff (d : Char) :
    takesE [d.toLower] = true ↔ takesE [d] = true ∨ d ∈ ['Y', 'S', 'X'] := by
  simp [takesE_singleton, toLower_eq_iff]
  grind

theorem isUpper_of_mem {d : Char} (big : d ∈ ['Y', 'S', 'X']) : d.isUpper = true := by
  simp only [List.mem_cons, List.not_mem_nil, or_false] at big
  rcases big with rfl | rfl | rfl <;> rfl

theorem not_takesE_of_isUpper {d : Char} (capital : d.isUpper = true) (stem : Text) :
    ¬ takesE (stem ++ [d]) = true := by
  intro takes
  obtain ⟨front, c, letter, cut⟩ := ends_of_takesE takes
  obtain rfl := List.singleton_inj.1 (List.append_inj' cut rfl).2
  revert capital
  simp only [List.mem_cons, List.not_mem_nil, or_false] at letter
  rcases letter with rfl | rfl | rfl | rfl <;> decide

/-- A noun is steady exactly if it takes the `e` both as it stands and with low lines. -/
theorem isSteady_iff (letters : ∀ c ∈ s, IsNameChar c) :
    IsSteady s ↔ (takesE (snake s) = true ↔ takesE s = true) := by
  rcases List.eq_nil_or_concat s with rfl | ⟨front, d, rfl⟩
  · decide
  rcases List.eq_nil_or_concat front with rfl | ⟨stem, c, rfl⟩
  · rw [List.concat_eq_append, List.nil_append] at letters ⊢
    rw [snake_of_isNameChar letters, isSteady_singleton]
    have lowered := takesE_toLower_iff d
    have kept (big : d ∈ ['Y', 'S', 'X']) : ¬ takesE [d] = true :=
      not_takesE_of_isUpper (isUpper_of_mem big) []
    exact ⟨fun small => ⟨fun takes => (lowered.1 takes).resolve_right small,
      fun takes => lowered.2 (.inl takes)⟩,
      fun alike big => kept big (alike.1 (lowered.2 (.inr big)))⟩
  have cut : (stem.concat c).concat d = stem ++ [c, d] := by simp
  rw [cut] at letters ⊢
  obtain ⟨front, spelled⟩ := snake_concat letters
  rw [spelled, isSteady_concat]
  by_cases capital : d.isUpper = true
  · have alone := not_takesE_of_isUpper capital []
    have kept : ¬ takesE (stem ++ [c, d]) = true := by
      rw [← cut, List.concat_eq_append]
      exact not_takesE_of_isUpper capital _
    have others : d ≠ 'y' ∧ d ≠ 'h' := by
      constructor <;> rintro rfl <;> exact absurd capital (by decide)
    rw [if_pos capital, takesE_set_off_iff, takesE_toLower_iff]
    grind
  · have others : d ∉ ['Y', 'S', 'X'] := fun big => capital (isUpper_of_mem big)
    rw [if_neg capital, takesE_concat, takesE_concat]
    by_cases y : d = 'y'
    · subst y
      have vowel := isVowel_toLower c
      have big := @not_isVowel_of_capital c
      grind
    · simp [toLower_eq_iff, y]
      grind

/-! ## Nouns told apart by an `e` -/

/-- The word ends in a letter that may ask for an `e`. -/
def MayTakeE (s : Text) : Prop := ∃ stem, ∃ c ∈ ['y', 's', 'x', 'h'], s = stem ++ [c]

theorem MayTakeE.ne_withE (may : MayTakeE s) (t : Text) : s ≠ withE t := by
  rintro rfl
  obtain ⟨stem, c, letter, cut⟩ := may
  obtain ⟨front, ended⟩ := withE_ends t
  rw [ended] at cut
  obtain rfl := List.singleton_inj.1 (List.append_inj' cut rfl).2
  simp at letter

theorem withE_ne_self (s : Text) : withE s ≠ s := by
  intro same
  have longer : (withE s).length = s.length + 1 := by
    rcases withE_cases s with ⟨stem, rfl, with_e⟩ | ⟨stem, rfl, with_e⟩ | ⟨-, -, with_e⟩ <;>
      simp [with_e]
  rw [same] at longer
  omega

theorem withE_concat {c : Char} (letter : c ∈ ['y', 's', 'x', 'h']) (stem : Text) :
    withE (stem ++ [c]) = stem ++ [if c = 'y' then 'i' else c] ++ ['e'] := by
  simp only [List.mem_cons, List.not_mem_nil, or_false] at letter
  rcases letter with rfl | rfl | rfl | rfl
  · rw [withE_y]
    simp
  all_goals exact withE_other (by decide) (by decide) stem

/-- A letter that may ask for an `e` can be told from the word with the `e`. -/
theorem withE_inj (first : MayTakeE s) (second : MayTakeE t) : withE s = withE t ↔ s = t := by
  refine ⟨fun same => ?_, congrArg withE⟩
  obtain ⟨stem, c, letter, rfl⟩ := first
  obtain ⟨other, d, letter', rfl⟩ := second
  rw [withE_concat letter, withE_concat letter', List.append_left_inj] at same
  obtain ⟨rfl, kept⟩ := List.append_inj' same rfl
  have letters : c = d := by
    have changed := List.singleton_inj.1 kept
    simp only [List.mem_cons, List.not_mem_nil, or_false] at letter letter'
    rcases letter with rfl | rfl | rfl | rfl <;> rcases letter' with rfl | rfl | rfl | rfl <;>
      first | rfl | exact absurd changed (by decide)
  rw [letters]

/-- A noun that takes the `e` as it stands or with low lines ends in a letter that asks for it. -/
theorem mayTakeE_snake (letters : ∀ c ∈ s, IsNameChar c)
    (takes : takesE s = true ∨ takesE (snake s) = true) : MayTakeE (snake s) := by
  rcases takes with takes | takes
  · obtain ⟨stem, c, letter, rfl⟩ := ends_of_takesE takes
    have last : (snake (stem ++ [c])).getLast? = some c := by
      rw [getLast?_snake letters, List.getLast?_concat]
      simp only [List.mem_cons, List.not_mem_nil, or_false] at letter
      rcases letter with rfl | rfl | rfl | rfl <;> rfl
    obtain ⟨front, cut⟩ := List.getLast?_eq_some_iff.1 last
    exact ⟨front, c, letter, cut⟩
  · exact ends_of_takesE takes

/-- What stands before the last letter of the table, and before that of the exported name with low
    lines, is the noun with low lines, and one of the two has the `e`. -/
inductive Differ (s : Text) : Prop
  | inName (table : pluralStem (snake s) = snake s) (name : snake (pluralStem s) = withE (snake s))
  | inTable (table : pluralStem (snake s) = withE (snake s)) (name : snake (pluralStem s) = snake s)

theorem differ_of_not_isSteady (letters : ∀ c ∈ s, IsNameChar c) (unsteady : ¬ IsSteady s) :
    MayTakeE (snake s) ∧ Differ s := by
  rw [isSteady_iff letters] at unsteady
  by_cases takes : takesE s = true
  · have table : ¬ takesE (snake s) = true := fun other => unsteady (iff_of_true other takes)
    refine ⟨mayTakeE_snake letters (.inl takes), .inName (if_neg table) ?_⟩
    rw [snake_pluralStem letters, if_pos takes]
  · have table : takesE (snake s) = true := by
      by_contra other
      exact unsteady (iff_of_false other takes)
    refine ⟨mayTakeE_snake letters (.inr table), .inTable (if_pos table) ?_⟩
    rw [snake_pluralStem letters, if_neg takes]

theorem stems_of_isSteady (letters : ∀ c ∈ s, IsNameChar c) (steady : IsSteady s) :
    snake (pluralStem s) = pluralStem (snake s) := by
  rw [snake_pluralStem letters, pluralStem]
  rw [isSteady_iff letters] at steady
  by_cases takes : takesE s = true
  · rw [if_pos takes, if_pos (steady.2 takes)]
  · rw [if_neg takes, if_neg fun other => takes (steady.1 other)]

/-- A steady noun is spelled like an unsteady one, or like it with the `e`. -/
structure Clashes (s t : Text) : Prop where
  unsteady : ¬ IsSteady s
  steady : IsSteady t
  spelled : snake t = snake s ∨ snake t = withE (snake s)

/-- The tables of two nouns are told apart as their exported names are. -/
def AgreeOn (s t : Text) : Prop :=
  pluralise (snake s) = pluralise (snake t) ↔ camel (pluralise s) = camel (pluralise t)

theorem agreeOn_iff_stems (first : ∀ c ∈ s, IsNameChar c) (second : ∀ c ∈ t, IsNameChar c) :
    AgreeOn s t ↔ (pluralStem (snake s) = pluralStem (snake t) ↔
      snake (pluralStem s) = snake (pluralStem t)) := by
  rw [AgreeOn, camel_pluralise_eq_iff first second, pluralise_eq, pluralise_eq,
    List.append_left_inj]

theorem agreeOn_of_unsteady (first : ∀ c ∈ s, IsNameChar c) (second : ∀ c ∈ t, IsNameChar c)
    (unsteady : ¬ IsSteady s) (unsteadyOther : ¬ IsSteady t) : AgreeOn s t := by
  obtain ⟨may, differ⟩ := differ_of_not_isSteady first unsteady
  obtain ⟨may', differ'⟩ := differ_of_not_isSteady second unsteadyOther
  rw [agreeOn_iff_stems first second]
  cases differ <;> cases differ' <;> rename_i table name table' name' <;>
    rw [table, name, table', name']
  · exact (withE_inj may may').symm
  · exact iff_of_false (may.ne_withE _) (may'.ne_withE _).symm
  · exact iff_of_false (may'.ne_withE _).symm (may.ne_withE _)
  · exact withE_inj may may'

/-- Two nouns of which one is steady are told apart alike unless one is spelled like the other. -/
theorem agreeOn_iff_of_steady (first : ∀ c ∈ s, IsNameChar c) (second : ∀ c ∈ t, IsNameChar c)
    (unsteady : ¬ IsSteady s) (steady : IsSteady t) :
    AgreeOn s t ↔ ¬ (snake t = snake s ∨ snake t = withE (snake s)) := by
  obtain ⟨may, differ⟩ := differ_of_not_isSteady first unsteady
  have apart := withE_ne_self (snake s)
  have stem : pluralStem (snake t) = snake s ∨ pluralStem (snake t) = withE (snake s) ↔
      snake t = snake s ∨ snake t = withE (snake s) := by
    by_cases takes : takesE (snake t) = true
    · have may' : MayTakeE (snake t) := ends_of_takesE takes
      rw [pluralStem, if_pos takes, withE_inj may' may]
      have never := may'.ne_withE (snake s)
      have never' := may.ne_withE (snake t)
      grind
    · rw [pluralStem, if_neg takes]
  rw [agreeOn_iff_stems first second, stems_of_isSteady second steady, ← stem]
  cases differ <;> rename_i table name <;> rw [table, name] <;> grind

theorem agreeOn_comm : AgreeOn s t ↔ AgreeOn t s := by
  unfold AgreeOn
  rw [eq_comm, eq_comm (a := camel _)]

/-- Tables are told apart as exported names are, exactly if no steady noun is spelled like an
    unsteady one. -/
theorem agreeOn_iff (first : ∀ c ∈ s, IsNameChar c) (second : ∀ c ∈ t, IsNameChar c) :
    AgreeOn s t ↔ ¬ Clashes s t ∧ ¬ Clashes t s := by
  by_cases steady : IsSteady s <;> by_cases steadyOther : IsSteady t
  · have agree : AgreeOn s t := by
      rw [agreeOn_iff_stems first second, stems_of_isSteady first steady,
        stems_of_isSteady second steadyOther]
    exact iff_of_true agree ⟨fun clash => clash.unsteady steady,
      fun clash => clash.unsteady steadyOther⟩
  · rw [agreeOn_comm, agreeOn_iff_of_steady second first steadyOther steady]
    exact ⟨fun apart => ⟨fun clash => clash.unsteady steady, fun clash => apart clash.spelled⟩,
      fun ⟨_, apart⟩ spelled => apart ⟨steadyOther, steady, spelled⟩⟩
  · rw [agreeOn_iff_of_steady first second steady steadyOther]
    exact ⟨fun apart => ⟨fun clash => apart clash.spelled,
      fun clash => clash.unsteady steadyOther⟩,
      fun ⟨apart, _⟩ spelled => apart ⟨steady, steadyOther, spelled⟩⟩
  · exact iff_of_true (agreeOn_of_unsteady first second steady steadyOther)
      ⟨fun clash => steadyOther clash.steady, fun clash => steady clash.steady⟩

/-- The spelling with low lines is read from the one with hyphens. -/
theorem map_kebab (letters : ∀ c ∈ s, IsNameChar c) :
    ((kebab s).map fun c => if c = '-' then '_' else c) = snake s := by
  have none : '-' ∉ snake s := fun member =>
    absurd (letters '-' (mem_snake (by decide) member)) (by decide)
  rw [kebab, List.map_map]
  refine (List.map_congr_left fun c member => ?_).trans (List.map_id _)
  have other : c ≠ '-' := fun hyphen => none (hyphen ▸ member)
  by_cases low : c = '_' <;> simp [low, other]

theorem kebab_eq_iff (first : ∀ c ∈ s, IsNameChar c) (second : ∀ c ∈ t, IsNameChar c) :
    kebab s = kebab t ↔ camel s = camel t := by
  rw [← snake_eq_iff first second]
  refine ⟨fun same => ?_, fun same => ?_⟩
  · rw [← map_kebab first, same, map_kebab second]
  · rw [kebab, same, kebab]

end Naming

/-! ## Models -/

namespace ModelNames

open Naming

/-- The tables of two models are told apart as the names are that they are exported by, and these
    as the directories, exactly if no singular clashes with the other. -/
theorem table_iff_camelPlural_iff {first second : Text} (valid : checkModelName first = .ok ())
    (valid' : checkModelName second = .ok ()) :
    ((ofName first).kebabPlural = (ofName second).kebabPlural ↔
        (ofName first).camelPlural = (ofName second).camelPlural) ∧
      (((ofName first).table = (ofName second).table ↔
          (ofName first).camelPlural = (ofName second).camelPlural) ↔
        ¬ Clashes (ofName first).singular (ofName second).singular ∧
          ¬ Clashes (ofName second).singular (ofName first).singular) := by
  have letters := isNameChar_singularise (isNameChar_of_checkModelName valid)
  have letters' := isNameChar_singularise (isNameChar_of_checkModelName valid')
  exact ⟨kebab_eq_iff (isNameChar_pluralise letters) (isNameChar_pluralise letters'),
    agreeOn_iff letters letters'⟩

/-- The two spellings of a steady singular have one table and one exported name. -/
theorem boxes_one_table :
    checkModelName "box" = .ok () ∧ checkModelName "boxe" = .ok () ∧
      (ofName "box").table = (ofName "boxe").table := by
  have valid : checkModelName "box" = .ok () := by decide
  have valid' : checkModelName "boxe" = .ok () := by decide
  have apart : ¬ Clashes (ofName "box").singular (ofName "boxe").singular ∧
      ¬ Clashes (ofName "boxe").singular (ofName "box").singular :=
    ⟨fun clash => clash.unsteady (by decide), fun clash => clash.unsteady (by decide)⟩
  obtain ⟨-, agree⟩ := table_iff_camelPlural_iff valid valid'
  exact ⟨valid, valid', (agree.2 apart).2 (by decide)⟩

/-- A capital vowel before the `y` gives two models one exported name and two tables, and a capital
    at the end gives two models one table and two exported names. -/
theorem capitals_tell_apart :
    checkModelName "bOy" = .ok () ∧ checkModelName "bOie" = .ok () ∧
      (ofName "bOy").camelPlural = (ofName "bOie").camelPlural ∧
      (ofName "bOy").table ≠ (ofName "bOie").table ∧
      checkModelName "busS" = .ok () ∧ checkModelName "busSe" = .ok () ∧
      (ofName "busS").camelPlural ≠ (ofName "busSe").camelPlural ∧
      (ofName "busS").table = (ofName "busSe").table := by
  decide

end ModelNames

end Groundwork
