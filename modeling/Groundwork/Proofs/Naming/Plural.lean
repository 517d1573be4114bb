import Groundwork.Proofs.Naming.RoundTrip

/-!
# Plurals under two spellings

A model's table and the name under which the table is exported are two spellings of the model's
plural, and they are formed in different orders: the table is the plural of the spelling, the name
the spelling of the plural. Two nouns of letters and digits with the same exported name have the
same table (`pluralise_snake_eq`), but for nouns in `Ay`, `Ey`, `Iy`, `Oy` and `Uy`: a capital
vowel is not taken for a vowel before a `y`.
-/

namespace Groundwork

namespace Naming

variable {s t : Text}

/-! ## Endings -/

/-- The endings that take `es` in the plural. -/
def sibilants : List Text := ["s", "x", "ch", "sh"]

/-- The word ends in a letter that changes a `y` after it. -/
def ChangesY (stem : Text) : Prop := ∀ c ∈ stem.getLast?, isVowel c = false

theorem endsInChangingY_iff :
    endsInChangingY s = true ↔ ∃ stem, s = stem ++ ['y'] ∧ ChangesY stem := by
  unfold endsInChangingY ChangesY
  rw [← List.reverse_reverse s]
  generalize s.reverse = r
  rw [List.reverse_reverse]
  constructor
  · intro changing
    split at changing
    · next c rest => exact ⟨rest.reverse ++ [c], by simp, by simpa using changing⟩
    · exact ⟨[], rfl, by simp⟩
    · cases changing
  · rintro ⟨stem, same, changes⟩
    obtain rfl : r = 'y' :: stem.reverse := by
      rw [← List.reverse_reverse r, same]
      simp
    rcases List.eq_nil_or_concat stem with rfl | ⟨stem, c, rfl⟩
    · rfl
    · simpa using changes

/-- How a plural is formed: a `y` after no vowel changes to `ies`, some endings take `es`, and all
    others take `s`. -/
theorem pluralise_cases (s : Text) :
    (∃ stem, s = stem ++ ['y'] ∧ ChangesY stem ∧ pluralise s = stem ++ "ies") ∨
    (∃ stem, ∃ ending ∈ sibilants, s = stem ++ ending ∧ pluralise s = s ++ "es") ∨
    pluralise s = s ++ "s" := by
  unfold pluralise
  split
  · next changing =>
    obtain ⟨stem, rfl, changes⟩ := endsInChangingY_iff.1 changing
    exact .inl ⟨stem, rfl, changes, by rw [List.dropLast_concat]⟩
  · split
    · next sibilant =>
      obtain ⟨ending, listed, ends⟩ := List.any_eq_true.1 sibilant
      obtain ⟨stem, rfl⟩ := Text.endsWith_iff.1 ends
      have among : ending.toList ∈ sibilants := List.mem_map_of_mem (f := String.toList) listed
      exact .inr (.inl ⟨stem, _, among, rfl, rfl⟩)
    · exact .inr (.inr rfl)

theorem pluralise_y {stem : Text} (changes : ChangesY stem) :
    pluralise (stem ++ ['y']) = stem ++ "ies" := by
  unfold pluralise
  rw [if_pos (endsInChangingY_iff.2 ⟨stem, rfl, changes⟩), List.dropLast_concat]

theorem not_endsInChangingY {c : Char} (other : c ≠ 'y') (stem : Text) :
    ¬ endsInChangingY (stem ++ [c]) = true := by
  rw [endsInChangingY_iff]
  rintro ⟨_, same, -⟩
  exact other (List.singleton_inj.1 (List.append_inj' same rfl).2)

/-- The last letter of a sibilant. -/
theorem sibilant_concat {ending : Text} (sibilant : ending ∈ sibilants) :
    ∃ front c, ending = front ++ [c] ∧ c ∈ ['s', 'x', 'h'] := by
  simp only [sibilants, List.mem_cons, List.not_mem_nil, or_false] at sibilant
  rcases sibilant with rfl | rfl | rfl | rfl
  · exact ⟨[], 's', rfl, by simp⟩
  · exact ⟨[], 'x', rfl, by simp⟩
  · exact ⟨['c'], 'h', rfl, by simp⟩
  · exact ⟨['s'], 'h', rfl, by simp⟩

theorem pluralise_sibilant {ending : Text} (sibilant : ending ∈ sibilants) (stem : Text) :
    pluralise (stem ++ ending) = stem ++ ending ++ "es" := by
  have kept : ¬ endsInChangingY (stem ++ ending) = true := by
    obtain ⟨front, c, rfl, letter⟩ := sibilant_concat sibilant
    rw [← List.append_assoc]
    refine not_endsInChangingY ?_ _
    rintro rfl
    simp at letter
  obtain ⟨word, listed, rfl⟩ : ∃ word ∈ ["s", "x", "ch", "sh"], word.toList = ending :=
    List.mem_map.1 sibilant
  have ends : ["s", "x", "ch", "sh"].any
      (fun ending => Text.endsWith ending (stem ++ word.toList)) = true :=
    List.any_eq_true.2 ⟨word, listed, Text.endsWith_iff.2 (List.suffix_append _ _)⟩
  unfold pluralise
  rw [if_neg kept, if_pos ends]

/-! ## Spellings of letters and digits -/

/-- The text is made of letters and digits. -/
def Alphanumeric (s : Text) : Prop := ∀ c ∈ s, c.isAlphanum = true

theorem Alphanumeric.plain (letters : Alphanumeric s) : Text.Plain s := by
  intro c member
  simp [Text.isPlain, letters c member]

theorem Alphanumeric.of_append (letters : Alphanumeric (s ++ t)) :
    Alphanumeric s ∧ Alphanumeric t :=
  List.forall_mem_append.1 letters

theorem Alphanumeric.append (first : Alphanumeric s) (second : Alphanumeric t) :
    Alphanumeric (s ++ t) :=
  List.forall_mem_append.2 ⟨first, second⟩

theorem Alphanumeric.isNameChar (letters : Alphanumeric s) : ∀ c ∈ s, IsNameChar c :=
  fun c member => .inl (letters c member)

/-- The text is made of small letters. -/
def IsSmall (s : Text) : Prop := ∀ c ∈ s, c.isLower = true

theorem isSmall_of_all (all : s.all Char.isLower = true) : IsSmall s :=
  List.all_eq_true.1 all

theorem IsSmall.alphanumeric (small : IsSmall s) : Alphanumeric s := by
  intro c member
  simp [Char.isAlphanum, Char.isAlpha, small c member]

theorem not_isUpper_of_isLower {c : Char} (small : c.isLower = true) : ¬ c.isUpper = true := by
  simp only [Char.isLower, Char.isUpper, Bool.and_eq_true, decide_eq_true_eq, ge_iff_le,
    UInt32.le_iff_toNat_le] at small ⊢
  have lower : 97 ≤ c.val.toNat := by simpa using small.1
  rintro ⟨-, upper⟩
  have below : c.val.toNat ≤ 90 := by simpa using upper
  omega

theorem IsSmall.map_toLower (small : IsSmall s) : s.map Char.toLower = s := by
  rw [List.map_congr_left fun c member =>
    Char.toLower_eq_of_not_isUpper (not_isUpper_of_isLower (small c member))]
  simp

theorem IsSmall.markCapitals (small : IsSmall s) : markCapitals s = s := by
  unfold Naming.markCapitals
  rw [List.flatMap_congr fun c member => if_neg (not_isUpper_of_isLower (small c member))]
  simp

theorem isNameChar_pluralise (letters : ∀ c ∈ s, IsNameChar c) :
    ∀ c ∈ pluralise s, IsNameChar c := by
  have append {t ending : Text} (first : ∀ c ∈ t, IsNameChar c) (small : Alphanumeric ending) :
      ∀ c ∈ t ++ ending, IsNameChar c := by
    intro c member
    exact (List.mem_append.1 member).elim (first c) (small.isNameChar c)
  rcases pluralise_cases s with ⟨stem, rfl, -, plural⟩ | ⟨_, _, -, -, plural⟩ | plural
  · rw [plural]
    exact append (fun c member => letters c (List.mem_append_left _ member))
      (isSmall_of_all rfl).alphanumeric
  · rw [plural]
    exact append letters (isSmall_of_all rfl).alphanumeric
  · rw [plural]
    exact append letters (isSmall_of_all rfl).alphanumeric

/-- Small letters at the end are spelled as they are. -/
theorem camel_append (letters : ∀ c ∈ s, IsNameChar c) (small : IsSmall t) :
    camel (s ++ t) = camel s ++ t := by
  have all : ∀ c ∈ s ++ t, IsNameChar c :=
    List.forall_mem_append.2 ⟨letters, small.alphanumeric.isNameChar⟩
  cases s with
  | cons c s =>
    rw [List.cons_append] at all ⊢
    rw [camel_of_isNameChar all, camel_of_isNameChar letters, List.cons_append]
  | nil =>
    cases t with
    | nil => rfl
    | cons c t =>
      have first : c.toLower = c :=
        Char.toLower_eq_of_not_isUpper (not_isUpper_of_isLower (small c (by simp)))
      rw [List.nil_append, camel_of_isNameChar small.alphanumeric.isNameChar, first]
      rfl

/-- Capitals after the first letter are set off and lowered, wherever they stand. -/
theorem snake_append_of_ne_nil (letters : ∀ c ∈ s ++ t, IsNameChar c) (nonempty : s ≠ []) :
    snake (s ++ t) = snake s ++ (markCapitals t).map Char.toLower := by
  obtain ⟨c, s, rfl⟩ := List.exists_cons_of_ne_nil nonempty
  have first : ∀ d ∈ c :: s, IsNameChar d := (List.forall_mem_append.1 letters).1
  rw [List.cons_append] at letters ⊢
  rw [snake_of_isNameChar letters, snake_of_isNameChar first, markCapitals, List.flatMap_append,
    List.map_append]
  rfl

theorem snake_append (letters : ∀ c ∈ s, IsNameChar c) (small : IsSmall t) :
    snake (s ++ t) = snake s ++ t := by
  by_cases empty : s = []
  · subst empty
    cases t with
    | nil => rfl
    | cons c t =>
      have rest : IsSmall t := fun d member => small d (by simp [member])
      have first : c.toLower = c :=
        Char.toLower_eq_of_not_isUpper (not_isUpper_of_isLower (small c (by simp)))
      rw [List.nil_append, snake_of_isNameChar small.alphanumeric.isNameChar, first,
        rest.markCapitals, rest.map_toLower]
      rfl
  · have all : ∀ c ∈ s ++ t, IsNameChar c :=
      List.forall_mem_append.2 ⟨letters, small.alphanumeric.isNameChar⟩
    rw [snake_append_of_ne_nil all empty, small.markCapitals, small.map_toLower]

/-- The spelling `blogPost` is put together again from the one with low lines. -/
theorem raiseWords_snake_eq_camel (letters : ∀ c ∈ s, IsNameChar c) :
    raiseWords (snake s) = camel s := by
  cases s with
  | nil => rfl
  | cons c s => rw [raiseWords_snake_cons letters, camel_of_isNameChar letters]

/-- Nouns that are told apart by the first letter's case only are spelled alike. -/
theorem snake_eq_iff (first : ∀ c ∈ s, IsNameChar c) (second : ∀ c ∈ t, IsNameChar c) :
    snake s = snake t ↔ camel s = camel t := by
  refine ⟨fun same => ?_, fun same => ?_⟩
  · rw [← raiseWords_snake_eq_camel first, same, raiseWords_snake_eq_camel second]
  · cases s with
    | nil =>
      cases t with
      | nil => rfl
      | cons d t =>
        rw [camel_of_isNameChar second] at same
        cases same
    | cons c s =>
      cases t with
      | nil =>
        rw [camel_of_isNameChar first] at same
        cases same
      | cons d t =>
        rw [camel_of_isNameChar first, camel_of_isNameChar second] at same
        obtain ⟨lowered, rfl⟩ := List.cons.inj same
        rw [snake_of_isNameChar first, snake_of_isNameChar second, lowered]

theorem getLast?_snake (letters : ∀ c ∈ s, IsNameChar c) :
    (snake s).getLast? = s.getLast?.map Char.toLower := by
  rcases List.eq_nil_or_concat s with rfl | ⟨stem, c, rfl⟩
  · rfl
  · rw [List.concat_eq_append] at letters ⊢
    by_cases empty : stem = []
    · subst empty
      rw [List.nil_append] at letters ⊢
      rw [snake_of_isNameChar letters]
      rfl
    · rw [snake_append_of_ne_nil letters empty]
      by_cases capital : c.isUpper = true <;> simp [markCapitals, capital]

/-! ## Nouns that take an `e` -/

/-- The plural of the noun has an `e` before its last letter that the noun does not have. -/
def takesE (s : Text) : Bool :=
  endsInChangingY s || sibilants.any fun ending => Text.endsWith ending s

/-- The noun with such an `e`; a `y` becomes an `i` before it. -/
def withE (s : Text) : Text :=
  match s.reverse with
  | 'y' :: front => front.reverse ++ "ie"
  | 'Y' :: front => front.reverse ++ "Ie"
  | _ => s ++ "e"

theorem withE_y (stem : Text) : withE (stem ++ ['y']) = stem ++ "ie" := by
  simp [withE]

theorem withE_capitalY (stem : Text) : withE (stem ++ ['Y']) = stem ++ "Ie" := by
  simp [withE]

theorem withE_other {c : Char} (small : c ≠ 'y') (capital : c ≠ 'Y') (stem : Text) :
    withE (stem ++ [c]) = stem ++ [c] ++ "e" := by
  unfold withE
  rw [List.reverse_append]
  split
  · next front cut => exact absurd (List.cons.inj cut).1 small
  · next front cut => exact absurd (List.cons.inj cut).1 capital
  · rfl

theorem withE_cases (s : Text) :
    (∃ stem, s = stem ++ ['y'] ∧ withE s = stem ++ "ie") ∨
    (∃ stem, s = stem ++ ['Y'] ∧ withE s = stem ++ "Ie") ∨
    s.getLast? ≠ some 'y' ∧ s.getLast? ≠ some 'Y' ∧ withE s = s ++ "e" := by
  rcases List.eq_nil_or_concat s with rfl | ⟨stem, c, rfl⟩
  · exact .inr (.inr ⟨by simp, by simp, rfl⟩)
  · rw [List.concat_eq_append]
    by_cases small : c = 'y'
    · subst small
      exact .inl ⟨stem, rfl, withE_y stem⟩
    by_cases capital : c = 'Y'
    · subst capital
      exact .inr (.inl ⟨stem, rfl, withE_capitalY stem⟩)
    exact .inr (.inr ⟨by simpa using small, by simpa using capital, withE_other small capital stem⟩)

theorem withE_ends (s : Text) : ∃ front, withE s = front ++ ['e'] := by
  rcases withE_cases s with ⟨stem, -, with_e⟩ | ⟨stem, -, with_e⟩ | ⟨-, -, with_e⟩
  · exact ⟨stem ++ "i", by rw [with_e]; simp⟩
  · exact ⟨stem ++ "I", by rw [with_e]; simp⟩
  · exact ⟨s, with_e⟩

/-- A noun that takes an `e` ends in a letter that asks for it. -/
theorem ends_of_takesE (takes : takesE s = true) :
    ∃ stem, ∃ c ∈ ['y', 's', 'x', 'h'], s = stem ++ [c] := by
  rcases (Bool.or_eq_true _ _).mp takes with changing | sibilant
  · obtain ⟨stem, rfl, -⟩ := endsInChangingY_iff.1 changing
    exact ⟨stem, 'y', by simp, rfl⟩
  · obtain ⟨ending, listed, ends⟩ := List.any_eq_true.1 sibilant
    obtain ⟨front, c, rfl, letter⟩ := sibilant_concat listed
    obtain ⟨stem, rfl⟩ := Text.endsWith_iff.1 ends
    exact ⟨stem ++ front, c, List.mem_cons_of_mem _ letter, by simp⟩

theorem not_takesE_withE (s : Text) : ¬ takesE (withE s) = true := by
  intro takes
  obtain ⟨stem, c, letter, cut⟩ := ends_of_takesE takes
  obtain ⟨front, ended⟩ := withE_ends s
  rw [ended] at cut
  obtain rfl := List.singleton_inj.1 (List.append_inj' cut rfl).2
  simp at letter

/-- What stands before the last letter of the plural. -/
def pluralStem (s : Text) : Text := if takesE s then withE s else s

theorem pluralise_eq (s : Text) : pluralise s = pluralStem s ++ ['s'] := by
  unfold pluralStem
  by_cases changing : endsInChangingY s = true
  · have takes : takesE s = true := by simp [takesE, changing]
    obtain ⟨stem, rfl, changes⟩ := endsInChangingY_iff.1 changing
    rw [pluralise_y changes, if_pos takes, withE_y]
    simp
  by_cases sibilant : (sibilants.any fun ending => Text.endsWith ending s) = true
  · have takes : takesE s = true := by simp [takesE, sibilant]
    obtain ⟨ending, listed, ends⟩ := List.any_eq_true.1 sibilant
    obtain ⟨front, c, rfl, letter⟩ := sibilant_concat listed
    obtain ⟨stem, rfl⟩ := Text.endsWith_iff.1 ends
    have small : c ≠ 'y' := by
      rintro rfl
      simp at letter
    have capital : c ≠ 'Y' := by
      rintro rfl
      simp at letter
    rw [pluralise_sibilant listed, if_pos takes, ← List.append_assoc, withE_other small capital]
    simp
  · have takes : ¬ takesE s = true := by simp [takesE, changing, sibilant]
    have kept : ¬ ["s", "x", "ch", "sh"].any (fun ending => Text.endsWith ending s) = true :=
      sibilant
    unfold pluralise
    rw [if_neg changing, if_neg kept, if_neg takes]
    rfl

/-- A letter is lowered to a small letter from that letter or from its capital. -/
theorem eq_or_eq_toUpper_of_toLower {c d : Char} (lowered : c.toLower = d) :
    c = d ∨ c = d.toUpper := by
  by_cases capital : c.isUpper = true
  · right
    have raised := Char.toUpper_eq_of_not_isLower (Char.not_isLower_of_isUpper capital)
    rw [← lowered, Char.toUpper_toLower_eq_toUpper, raised]
  · left
    rwa [Char.toLower_eq_of_not_isUpper capital] at lowered

/-- The `e` is the same in the spelling with low lines. -/
theorem withE_snake (letters : ∀ c ∈ s, IsNameChar c) : withE (snake s) = snake (withE s) := by
  rcases withE_cases s with ⟨stem, rfl, with_e⟩ | ⟨stem, rfl, with_e⟩ | ⟨small, capital, with_e⟩
  · have front := (List.forall_mem_append.1 letters).1
    rw [with_e, snake_append front (isSmall_of_all rfl), withE_y,
      snake_append front (isSmall_of_all rfl)]
  · by_cases empty : stem = []
    · subst empty
      decide
    · have front := (List.forall_mem_append.1 letters).1
      have longer : ∀ c ∈ stem ++ "Ie", IsNameChar c :=
        List.forall_mem_append.2 ⟨front, Alphanumeric.isNameChar (by simp [Alphanumeric])⟩
      have cut : snake stem ++ (markCapitals ['Y']).map Char.toLower =
          snake stem ++ ['_'] ++ ['y'] := by
        rw [List.append_assoc]
        rfl
      rw [with_e, snake_append_of_ne_nil letters empty, cut, withE_y,
        snake_append_of_ne_nil longer empty, List.append_assoc]
      rfl
  · rw [with_e, snake_append letters (isSmall_of_all rfl)]
    rcases withE_cases (snake s) with ⟨stem, cut, -⟩ | ⟨stem, cut, -⟩ | ⟨-, -, with_e⟩
    · have last := getLast?_snake letters
      rw [cut, List.getLast?_concat, eq_comm, Option.map_eq_some_iff] at last
      obtain ⟨c, last, lowered⟩ := last
      rcases eq_or_eq_toUpper_of_toLower lowered with rfl | rfl
      · exact absurd last small
      · exact absurd last capital
    · have last := getLast?_snake letters
      rw [cut, List.getLast?_concat, eq_comm, Option.map_eq_some_iff] at last
      obtain ⟨c, last, lowered⟩ := last
      rcases eq_or_eq_toUpper_of_toLower lowered with rfl | rfl <;> exact absurd lowered (by decide)
    · exact with_e

theorem pluralStem_withE (s : Text) : pluralStem (withE s) = withE s :=
  if_neg (not_takesE_withE s)

theorem isNameChar_pluralStem (letters : ∀ c ∈ s, IsNameChar c) :
    ∀ c ∈ pluralStem s, IsNameChar c := by
  have plural := isNameChar_pluralise letters
  rw [pluralise_eq] at plural
  exact (List.forall_mem_append.1 plural).1

theorem snake_pluralStem (letters : ∀ c ∈ s, IsNameChar c) :
    snake (pluralStem s) = if takesE s then withE (snake s) else snake s := by
  rw [withE_snake letters]
  exact apply_ite snake _ _ _

/-- The name under which a table is exported ends in `s`. -/
theorem camel_pluralise (letters : ∀ c ∈ s, IsNameChar c) :
    camel (pluralise s) = camel (pluralStem s) ++ ['s'] := by
  rw [pluralise_eq, camel_append (isNameChar_pluralStem letters) (isSmall_of_all rfl)]

/-- Plurals are exported under one name exactly if they are spelled alike up to the last letter. -/
theorem camel_pluralise_eq_iff (first : ∀ c ∈ s, IsNameChar c) (second : ∀ c ∈ t, IsNameChar c) :
    camel (pluralise s) = camel (pluralise t) ↔ snake (pluralStem s) = snake (pluralStem t) := by
  rw [camel_pluralise first, camel_pluralise second, List.append_left_inj,
    snake_eq_iff (isNameChar_pluralStem first) (isNameChar_pluralStem second)]

/-! ## The last two letters -/

theorem takesE_singleton (c : Char) : takesE [c] = (c = 'y' || c = 's' || c = 'x') := by
  by_cases y : c = 'y'
  · subst y
    rfl
  · have kept : endsInChangingY [c] = false := by simp [endsInChangingY, y]
    rw [takesE, kept]
    simp [sibilants, Text.endsWith, Text.before?, Text.after?, y]
    grind

/-- Whether a noun takes the `e` hangs on its last two letters. -/
theorem takesE_concat (stem : Text) (c d : Char) :
    takesE (stem ++ [c, d]) =
      if d = 'y' then !isVowel c else d = 's' || d = 'x' || d = 'h' && (c = 'c' || c = 's') := by
  by_cases y : d = 'y'
  · subst y
    simp [takesE, endsInChangingY, sibilants, Text.endsWith, Text.before?, Text.after?]
  · have kept : endsInChangingY (stem ++ [c, d]) = false := by simp [endsInChangingY, y]
    rw [takesE, kept, if_neg y]
    simp [sibilants, Text.endsWith, Text.before?, Text.after?]
    grind

/-- The last two letters in the spelling with low lines: a capital is set off from the letter
    before it. -/
theorem snake_concat {stem : Text} {c d : Char} (letters : ∀ e ∈ stem ++ [c, d], IsNameChar e) :
    ∃ front, snake (stem ++ [c, d]) =
      front ++ if d.isUpper then ['_', d.toLower] else [c.toLower, d] := by
  have cut : stem ++ [c, d] = (stem ++ [c]) ++ [d] := by simp
  rw [cut] at letters ⊢
  rw [snake_append_of_ne_nil letters (by simp)]
  by_cases capital : d.isUpper = true
  · exact ⟨snake (stem ++ [c]), by simp [markCapitals, capital]⟩
  · have last : (snake (stem ++ [c])).getLast? = some c.toLower := by
      rw [getLast?_snake (List.forall_mem_append.1 letters).1, List.getLast?_concat]
      rfl
    obtain ⟨front, spelled⟩ := List.getLast?_eq_some_iff.1 last
    exact ⟨front, by simp [spelled, markCapitals, capital, Char.toLower_eq_of_not_isUpper capital]⟩

/-! ## Nouns with the same exported plural -/

/-- The noun ends in a capital vowel with a `y` after it. -/
def endsInCapitalVowelY (s : Text) : Bool :=
  match s.reverse with
  | 'y' :: c :: _ => c.isUpper && isVowel c.toLower
  | _ => false

/-- A noun takes the `e` in the spelling with low lines too, unless a capital vowel stands before
    its `y`. -/
theorem takesE_snake (letters : ∀ c ∈ s, IsNameChar c) (steady : endsInCapitalVowelY s = false)
    (takes : takesE s = true) : takesE (snake s) = true := by
  obtain ⟨front, d, letter, rfl⟩ := ends_of_takesE takes
  have small : ¬ d.isUpper = true := by
    simp only [List.mem_cons, List.not_mem_nil, or_false] at letter
    rcases letter with rfl | rfl | rfl | rfl <;> decide
  rcases List.eq_nil_or_concat front with rfl | ⟨stem, c, rfl⟩
  · rwa [List.nil_append, snake_of_isNameChar letters, Char.toLower_eq_of_not_isUpper small]
  have cut : stem.concat c ++ [d] = stem ++ [c, d] := by simp
  rw [cut] at letters steady takes ⊢
  obtain ⟨other, spelled⟩ := snake_concat letters
  rw [spelled, if_neg small, takesE_concat]
  rw [takesE_concat] at takes
  by_cases y : d = 'y'
  · subst y
    rw [if_pos rfl] at takes ⊢
    by_cases capital : c.isUpper = true
    · simpa [endsInCapitalVowelY, capital] using steady
    · rwa [Char.toLower_eq_of_not_isUpper capital]
  · rw [if_neg y] at takes ⊢
    simp only [Bool.or_eq_true, Bool.and_eq_true, decide_eq_true_eq] at takes ⊢
    rcases takes with other | ⟨rfl, rfl | rfl⟩
    · exact .inl other
    · exact .inr ⟨rfl, .inl rfl⟩
    · exact .inr ⟨rfl, .inr rfl⟩

/-- Nouns whose plurals are exported under one name have one table, if neither ends in a capital
    vowel with a `y` after it. -/
theorem pluralise_snake_eq (first : Alphanumeric s) (second : Alphanumeric t)
    (steady : endsInCapitalVowelY s = false) (steadyOther : endsInCapitalVowelY t = false)
    (same : camel (pluralise s) = camel (pluralise t)) :
    pluralise (snake s) = pluralise (snake t) := by
  rw [camel_pluralise_eq_iff first.isNameChar second.isNameChar,
    snake_pluralStem first.isNameChar, snake_pluralStem second.isNameChar] at same
  have takes := takesE_snake first.isNameChar steady
  have takesOther := takesE_snake second.isNameChar steadyOther
  by_cases e : takesE s = true <;> by_cases e' : takesE t = true
  · rw [if_pos e, if_pos e'] at same
    rw [pluralise_eq, pluralise_eq, pluralStem, pluralStem, if_pos (takes e),
      if_pos (takesOther e'), same]
  · rw [if_pos e, if_neg e'] at same
    rw [pluralise_eq, pluralise_eq, ← same, pluralStem_withE, pluralStem, if_pos (takes e)]
  · rw [if_neg e, if_pos e'] at same
    rw [pluralise_eq, pluralise_eq, same, pluralStem_withE, pluralStem, if_pos (takesOther e')]
  · rw [if_neg e, if_neg e'] at same
    rw [same]

end Naming

namespace ModelNames

open Naming

/-! ## Accepted names -/

theorem alphanumeric_singular {name : Text} (line : '\n' ∉ name)
    (valid : checkModelName name = .ok ()) : Alphanumeric (ofName name).singular := by
  intro c member
  rcases mem_singularise member with inside | rfl
  · rcases isNameChar_of_checkModelName valid c inside with letter | rfl
    · exact letter
    · exact absurd inside line
  · rfl

theorem camelPlural_ends {name : Text} (line : '\n' ∉ name)
    (valid : checkModelName name = .ok ()) : ∃ stem, (ofName name).camelPlural = stem ++ ['s'] :=
  ⟨_, camel_pluralise (alphanumeric_singular line valid).isNameChar⟩

end ModelNames

end Groundwork
