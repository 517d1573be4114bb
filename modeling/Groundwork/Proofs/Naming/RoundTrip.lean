import Groundwork.Proofs.Naming.Accepted

/-!
# Words that are put together again

Separators before the capitals of a name say where its words begin, so raising the words gives the
name back (`raiseWords_setOff`). A name that begins with a small letter is told by its spelling with
low lines (`snake_injective`).
-/

namespace Groundwork.Naming

variable {c d join : Char} {s t : Text}

/-! ## Raising words -/

theorem raiseWords_cons (single : isSeparator c = false) :
    raiseWords (c :: s) = c :: raiseWords s := by
  cases s with
  | nil => rfl
  | cons d s => simp [raiseWords, single]

/-- A separator before a letter or a digit raises it. -/
theorem raiseWords_cons_separator (joins : isSeparator c = true) (letter : d.isAlphanum = true) :
    raiseWords (c :: d :: s) = d.toUpper :: raiseWords s := by
  have word : Text.isWord d = true := by simp [Text.isWord, letter]
  have plain : Text.isPlain d = true := by simp [Text.isPlain, letter]
  rw [raiseWords, joins, word, Text.upperChar_of_isPlain plain]
  rfl

/-! ## Marking capitals -/

theorem markCapitals_cons_capital (capital : c.isUpper = true) :
    markCapitals (c :: s) = '_' :: c :: markCapitals s := by
  simp [markCapitals, capital]

theorem markCapitals_cons (small : c.isUpper = false) :
    markCapitals (c :: s) = c :: markCapitals s := by
  simp [markCapitals, small]

theorem ascii_markCapitals (letters : ∀ c ∈ s, IsNameChar c) :
    ∀ c ∈ markCapitals s, c.toNat < 128 := by
  intro c member
  obtain ⟨d, inside, here⟩ := List.mem_flatMap.1 member
  split at here
  · rcases List.mem_cons.1 here with rfl | here
    · decide
    · exact (List.mem_singleton.1 here) ▸ (letters d inside).ascii
  · exact (List.mem_singleton.1 here) ▸ (letters d inside).ascii

/-! ## Words that are set off -/

/-- The text with each capital of ASCII lowered and set off by a character. -/
def setOff (join : Char) (s : Text) : Text :=
  s.flatMap fun c => if c.isUpper then [join, c.toLower] else [c]

theorem setOff_cons_capital (capital : c.isUpper = true) :
    setOff join (c :: s) = join :: c.toLower :: setOff join s := by
  simp [setOff, capital]

theorem setOff_cons (small : c.isUpper = false) : setOff join (c :: s) = c :: setOff join s := by
  simp [setOff, small]

theorem map_markCapitals (s : Text) : (markCapitals s).map Char.toLower = setOff '_' s := by
  induction s with
  | nil => rfl
  | cons c s ih =>
    cases capital : c.isUpper with
    | true =>
      rw [markCapitals_cons_capital capital, setOff_cons_capital capital, ← ih]
      rfl
    | false =>
      have small : c.toLower = c := Char.toLower_eq_of_not_isUpper (by simp [capital])
      rw [markCapitals_cons capital, setOff_cons capital, List.map_cons, small, ih]

/-- Words that a separator sets off are put together again. -/
theorem raiseWords_setOff (joins : isSeparator join = true) (letters : ∀ c ∈ s, IsNameChar c) :
    raiseWords (setOff join s) = s := by
  -- Each step takes back what one character became: one character, or a separator with a letter.
  induction s with
  | nil => rfl
  | cons c s ih =>
    have rest := ih fun d member => letters d (List.mem_cons_of_mem _ member)
    cases capital : c.isUpper with
    | true =>
      have letter : c.toLower.isAlphanum = true := by
        simp [Char.isAlphanum, Char.isAlpha, capital]
      have raised : c.toUpper = c :=
        Char.toUpper_eq_of_not_isLower (Char.not_isLower_of_isUpper capital)
      rw [setOff_cons_capital capital, raiseWords_cons_separator joins letter, rest,
        Char.toUpper_toLower_eq_toUpper, raised]
    | false =>
      rw [setOff_cons capital, raiseWords_cons (letters c (by simp)).not_isSeparator, rest]

/-- The separator of words that are set off may be changed, as no name has it. -/
theorem map_setOff (letters : ∀ c ∈ s, IsNameChar c) :
    ((setOff '_' s).map fun c => if c = '_' then '-' else c) = setOff '-' s := by
  have kept {d : Char} (letter : IsNameChar d) : (if d = '_' then '-' else d) = d := by
    refine if_neg ?_
    rintro rfl
    exact absurd letter.not_isSeparator (by decide)
  induction s with
  | nil => rfl
  | cons c s ih =>
    have rest := ih fun d member => letters d (List.mem_cons_of_mem _ member)
    have letter := letters c (by simp)
    cases capital : c.isUpper with
    | true =>
      rw [setOff_cons_capital capital, setOff_cons_capital capital, List.map_cons, List.map_cons,
        kept letter.toLower, rest]
      rfl
    | false => rw [setOff_cons capital, setOff_cons capital, List.map_cons, kept letter, rest]

/-! ## The spelling with low lines -/

/-- The spelling `blog_post` lowers the first letter, and sets off and lowers the other capitals. -/
theorem snake_of_isNameChar (letters : ∀ d ∈ c :: s, IsNameChar d) :
    snake (c :: s) = c.toLower :: (markCapitals s).map Char.toLower := by
  rw [snake, Text.lower_of_ascii (ascii_markCapitals letters)]
  cases capital : c.isUpper with
  | true =>
    rw [markCapitals_cons_capital capital]
    rfl
  | false =>
    have small : c.toLower = c := Char.toLower_eq_of_not_isUpper (by simp [capital])
    have single : c ≠ '_' := by
      rintro rfl
      exact absurd (letters '_' (by simp)).not_isSeparator (by decide)
    rw [markCapitals_cons capital, List.map_cons, small]
    exact if_neg single

/-- Raising the words of the spelling with low lines gives the name but for its first letter. -/
theorem raiseWords_snake_cons (letters : ∀ d ∈ c :: s, IsNameChar d) :
    raiseWords (snake (c :: s)) = c.toLower :: s := by
  have first := (letters c (by simp)).toLower.not_isSeparator
  rw [snake_of_isNameChar letters, raiseWords_cons first, map_markCapitals,
    raiseWords_setOff rfl fun d member => letters d (List.mem_cons_of_mem _ member)]

/-- A name that begins with a small letter is put together again as it is. -/
theorem raiseWords_snake (identifier : isIdentifier Char.isLower s = true) :
    raiseWords (snake s) = s := by
  have letters := isNameChar_of_isIdentifier identifier
  obtain ⟨c, s, rfl, -, small, -⟩ := cons_of_isIdentifier identifier
  have first : c.toLower = c :=
    Char.toLower_eq_of_not_isUpper fun capital => Char.not_isLower_of_isUpper capital small
  rw [raiseWords_snake_cons letters, first]

/-- Names that begin with a small letter are told by their spellings with low lines. -/
theorem snake_injective (first : isIdentifier Char.isLower s = true)
    (second : isIdentifier Char.isLower t = true) (same : snake s = snake t) : s = t := by
  rw [← raiseWords_snake first, same, raiseWords_snake second]

/-- A spelling with low lines that joins no words is the name itself. -/
theorem snake_eq_of_joined (identifier : isIdentifier Char.isLower s = true)
    (joined : ∀ c ∈ snake s, isSeparator c = false) : snake s = s := by
  rw [← raiseWords_of_joined joined, raiseWords_snake identifier]

end Groundwork.Naming
