import Groundwork.Proofs.Naming.Plural

/-!
# Styles that are turned into each other

The spelling of a name with low lines or hyphens keeps all but the case of its first letter. So the
styles `blogPost` and `BlogPost` are computed from it, each for the names that are written in it
(`styles_invert`).
-/

namespace Groundwork.Naming

variable {c : Char} {s t : Text}

/-! ## The spelling with hyphens -/

/-- The spelling `blog-post` lowers the first letter, and sets off and lowers the other capitals. -/
theorem kebab_of_isNameChar (letters : ∀ d ∈ c :: s, IsNameChar d) :
    kebab (c :: s) = c.toLower :: setOff '-' s := by
  have first : c.toLower ≠ '_' := by
    intro low
    exact absurd (low ▸ (letters c (by simp)).toLower.not_isSeparator) (by decide)
  have rest : ∀ d ∈ s, IsNameChar d := fun d member => letters d (List.mem_cons_of_mem _ member)
  rw [kebab, snake_of_isNameChar letters, map_markCapitals, List.map_cons, if_neg first,
    map_setOff rest]

/-- Raising the words of the spelling with hyphens gives the name but for its first letter. -/
theorem raiseWords_kebab_cons (letters : ∀ d ∈ c :: s, IsNameChar d) :
    raiseWords (kebab (c :: s)) = c.toLower :: s := by
  have first := (letters c (by simp)).toLower.not_isSeparator
  rw [kebab_of_isNameChar letters, raiseWords_cons first,
    raiseWords_setOff rfl fun d member => letters d (List.mem_cons_of_mem _ member)]

/-! ## Styles of a text whose words are known -/

theorem pascal_of_raised (raised : raiseWords t = c.toLower :: s)
    (letters : ∀ d ∈ c :: s, IsNameChar d) : pascal t = c.toUpper :: s := by
  have lowered := (letters c (by simp)).toLower.ascii
  rw [pascal, raised, Text.capitalise, Text.upperChar_of_ascii lowered,
    Char.toUpper_toLower_eq_toUpper]
  rfl

theorem camel_of_raised (raised : raiseWords t = c.toLower :: s)
    (letters : ∀ d ∈ c :: s, IsNameChar d) : camel t = c.toLower :: s := by
  have upper := (letters c (by simp)).toUpper.ascii
  rw [camel, pascal_of_raised raised letters, Text.uncapitalise, Text.lowerChar_of_ascii upper,
    Char.toLower_toUpper_eq_toLower]
  rfl

theorem toLower_eq_self_iff (letter : c.isAlpha = true) : c.toLower = c ↔ c.isLower = true := by
  constructor
  · intro same
    rw [← same, Char.isLower_toLower_eq_isAlpha, letter]
  · intro small
    exact Char.toLower_eq_of_not_isUpper (not_isUpper_of_isLower small)

theorem toUpper_eq_self_iff (letter : c.isAlpha = true) : c.toUpper = c ↔ c.isUpper = true := by
  constructor
  · intro same
    rw [← same, Char.isUpper_toUpper_eq_isAlpha, letter]
  · intro capital
    exact Char.toUpper_eq_of_not_isLower (Char.not_isLower_of_isUpper capital)

/-- Of the two styles, the one that the name is written in gives it back. -/
theorem invert_of_raised (raised : raiseWords t = c.toLower :: s)
    (letters : ∀ d ∈ c :: s, IsNameChar d) (letter : c.isAlpha = true) :
    (camel t = c :: s ↔ c.isLower = true) ∧ (pascal t = c :: s ↔ c.isUpper = true) := by
  rw [camel_of_raised raised letters, pascal_of_raised raised letters, List.cons.injEq,
    List.cons.injEq, toLower_eq_self_iff letter, toUpper_eq_self_iff letter]
  simp

/-- A name of letters and digits that begins with a letter is computed back from its spelling with
    low lines, and from the one with hyphens, in the style that it is written in and in no other.
    So names that begin with a small letter are told by each of these spellings. -/
theorem styles_invert :
    (∀ c s, c.isAlpha = true → Alphanumeric s →
      (camel (snake (c :: s)) = c :: s ↔ c.isLower = true) ∧
      (camel (kebab (c :: s)) = c :: s ↔ c.isLower = true) ∧
      (pascal (snake (c :: s)) = c :: s ↔ c.isUpper = true) ∧
      (pascal (kebab (c :: s)) = c :: s ↔ c.isUpper = true)) ∧
    ∀ c s d t, c.isLower = true → d.isLower = true → Alphanumeric s → Alphanumeric t →
      (snake (c :: s) = snake (d :: t) ↔ c :: s = d :: t) ∧
      (kebab (c :: s) = kebab (d :: t) ↔ c :: s = d :: t) := by
  have inverts (c : Char) (s : Text) (letter : c.isAlpha = true) (rest : Alphanumeric s) :
      (camel (snake (c :: s)) = c :: s ↔ c.isLower = true) ∧
      (camel (kebab (c :: s)) = c :: s ↔ c.isLower = true) ∧
      (pascal (snake (c :: s)) = c :: s ↔ c.isUpper = true) ∧
      (pascal (kebab (c :: s)) = c :: s ↔ c.isUpper = true) := by
    have letters : ∀ d ∈ c :: s, IsNameChar d :=
      List.forall_mem_cons.2 ⟨.inl (by simp [Char.isAlphanum, letter]), rest.isNameChar⟩
    have low := invert_of_raised (raiseWords_snake_cons letters) letters letter
    have hyphens := invert_of_raised (raiseWords_kebab_cons letters) letters letter
    exact ⟨low.1, hyphens.1, low.2, hyphens.2⟩
  refine ⟨inverts, fun c s d t small small' rest rest' => ?_⟩
  have letter {c : Char} (small : c.isLower = true) : c.isAlpha = true := by
    simp [Char.isAlpha, small]
  obtain ⟨low, hyphens, -⟩ := inverts c s (letter small) rest
  obtain ⟨low', hyphens', -⟩ := inverts d t (letter small') rest'
  constructor
  · refine ⟨fun same => ?_, fun same => by rw [same]⟩
    rw [← low.2 small, same, low'.2 small']
  · refine ⟨fun same => ?_, fun same => by rw [same]⟩
    rw [← hyphens.2 small, same, hyphens'.2 small']

/-- Capitals in a row are words of their own, and a digit goes with the word before it. -/
theorem url_styles_invert :
    (snake ('o' :: "ldURL2Id") = "old_u_r_l2_id" ∧ kebab ('O' :: "ldURL2Id") = "old-u-r-l2-id") ∧
    camel (snake ('o' :: "ldURL2Id")) = 'o' :: "ldURL2Id" ∧
    camel (kebab ('o' :: "ldURL2Id")) = 'o' :: "ldURL2Id" ∧
    pascal (snake ('O' :: "ldURL2Id")) = 'O' :: "ldURL2Id" ∧
    pascal (kebab ('O' :: "ldURL2Id")) = 'O' :: "ldURL2Id" ∧
    snake ('o' :: "ldURL2Id") ≠ snake ('o' :: "ldUrl2Id") := by
  have rest : Alphanumeric "ldURL2Id" := by simp [Alphanumeric]
  have rest' : Alphanumeric "ldUrl2Id" := by simp [Alphanumeric]
  obtain ⟨inverts, told⟩ := styles_invert
  obtain ⟨low, hyphens, -⟩ := inverts 'o' "ldURL2Id" rfl rest
  obtain ⟨-, -, low', hyphens'⟩ := inverts 'O' "ldURL2Id" rfl rest
  obtain ⟨apart, -⟩ := told 'o' "ldURL2Id" 'o' "ldUrl2Id" rfl rfl rest rest'
  exact ⟨by decide, low.2 rfl, hyphens.2 rfl, low'.2 rfl, hyphens'.2 rfl, apart.not.2 (by decide)⟩

end Groundwork.Naming
