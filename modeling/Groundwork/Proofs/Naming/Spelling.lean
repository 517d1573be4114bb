import Mathlib
import Groundwork.Naming.ModelNames
import Groundwork.Proofs.Text.Case
import Groundwork.Text.Lemmas

/-!
# What spellings are made of

The spellings of a name bring in no white space and no marks of source text that the name does not
have (`mem_camel`, `mem_pluralise`), and the spellings of a plain name, one of letters,
digits and low lines of ASCII, are plain (`Plain.camel`, `Plain.snake`, `Plain.pluralise`).
-/

namespace Groundwork

namespace Naming

variable {x : Char} {s : Text}

theorem mem_raiseWords (mark : x.toNat < 65) (member : x ∈ raiseWords s) : x ∈ s := by
  fun_induction raiseWords s with
  | case1 => exact member
  | case2 c => exact member
  | case3 c d s raised ih =>
    rcases List.mem_append.1 member with here | later
    · simp [Text.mem_upperChar mark here]
    · simp [ih later]
  | case4 c d s kept ih =>
    rcases List.mem_cons.1 member with rfl | later
    · simp
    · exact List.mem_cons_of_mem _ (ih later)

theorem mem_pascal (mark : x.toNat < 65) (member : x ∈ pascal s) : x ∈ s :=
  mem_raiseWords mark (Text.mem_capitalise mark member)

theorem mem_camel (mark : x.toNat < 65) (member : x ∈ camel s) : x ∈ s :=
  mem_pascal mark (Text.mem_uncapitalise mark member)

theorem mem_dropOne {c : Char} (member : x ∈ Text.dropOne c s) : x ∈ s := by
  cases s with
  | nil => exact member
  | cons d s =>
    simp only [Text.dropOne] at member
    split at member
    · exact List.mem_cons_of_mem _ member
    · exact member

theorem mem_snake (mark : x.toNat < 65) (member : x ∈ snake s) : x ∈ s := by
  have marked := Text.mem_lower mark (mem_dropOne member)
  obtain ⟨c, inside, here⟩ := List.mem_flatMap.1 marked
  split at here
  · rcases List.mem_cons.1 here with rfl | here
    · exact absurd mark (by decide)
    · rwa [List.mem_singleton.1 here]
  · rwa [List.mem_singleton.1 here]

theorem mem_kebab (mark : x.toNat < 65) (other : x ≠ '-') (member : x ∈ kebab s) : x ∈ s := by
  obtain ⟨c, inside, rfl⟩ := List.mem_map.1 member
  split at mark
  · next low => exact absurd (if_pos low) other
  · next plain =>
    rw [if_neg plain]
    exact mem_snake mark inside

theorem mem_pluralise (mark : x.toNat < 65) (member : x ∈ pluralise s) : x ∈ s := by
  have ending (letters t : Text) (beyond : ∀ c ∈ letters, 65 ≤ c.toNat)
      (within : x ∈ t ++ letters) : x ∈ t := by
    rcases List.mem_append.1 within with inside | inside
    · exact inside
    · have := beyond x inside
      omega
  unfold pluralise at member
  split at member
  · exact List.mem_of_mem_dropLast (ending "ies" _ (by simp) member)
  · split at member
    · exact ending "es" _ (by simp) member
    · exact ending "s" _ (by simp) member

end Naming

namespace Text

/-- Letters and digits of ASCII, and low lines. -/
def isPlain (c : Char) : Bool := c.isAlphanum || c = '_'

/-- The text has letters and digits of ASCII and low lines only. -/
def Plain (s : Text) : Prop := ∀ c ∈ s, isPlain c = true

instance (s : Text) : Decidable (Plain s) :=
  List.decidableBAll (isPlain · = true) s

theorem Plain.append {s t : Text} (first : Plain s) (second : Plain t) : Plain (s ++ t) :=
  fun c member => (List.mem_append.1 member).elim (first c) (second c)

theorem Plain.of_subset {s t : Text} (plain : Plain t) (subset : s ⊆ t) : Plain s :=
  fun c member => plain c (subset member)

theorem Plain.not_mem {s : Text} (plain : Plain s) {c : Char} (other : isPlain c = false) :
    c ∉ s := by
  intro member
  simp [plain c member] at other

theorem isPlain_toUpper {c : Char} (plain : isPlain c = true) : isPlain c.toUpper = true := by
  by_cases lower : c.isLower
  · simp [isPlain, Char.isAlphanum, Char.isAlpha, lower]
  · rwa [Char.toUpper_eq_of_not_isLower lower]

theorem isPlain_toLower {c : Char} (plain : isPlain c = true) : isPlain c.toLower = true := by
  by_cases upper : c.isUpper
  · simp [isPlain, Char.isAlphanum, Char.isAlpha, upper]
  · rwa [Char.toLower_eq_of_not_isUpper upper]

theorem toNat_lt_of_isPlain {c : Char} (plain : isPlain c = true) : c.toNat < 128 := by
  simp only [isPlain, Char.isAlphanum, Char.isAlpha, Char.isUpper, Char.isLower, Char.isDigit,
    Bool.or_eq_true, Bool.and_eq_true, decide_eq_true_eq, UInt32.le_iff_toNat_le, ge_iff_le]
    at plain
  change c.val.toNat < 128
  rcases plain with ((⟨-, high⟩ | ⟨-, high⟩) | ⟨-, high⟩) | rfl
  · exact Nat.lt_of_le_of_lt high (by decide)
  · exact Nat.lt_of_le_of_lt high (by decide)
  · exact Nat.lt_of_le_of_lt high (by decide)
  · decide

theorem upperChar_of_isPlain {c : Char} (plain : isPlain c = true) :
    upperChar c = [c.toUpper] :=
  upperChar_of_ascii (toNat_lt_of_isPlain plain)

theorem lowerChar_of_isPlain {c : Char} (plain : isPlain c = true) :
    lowerChar c = [c.toLower] :=
  lowerChar_of_ascii (toNat_lt_of_isPlain plain)

theorem Plain.capitalise {s : Text} (plain : Plain s) : Plain (capitalise s) := by
  cases s with
  | nil => exact plain
  | cons c s =>
    have first := plain c (by simp)
    rw [Text.capitalise, upperChar_of_isPlain first]
    refine Plain.append ?_ (plain.of_subset (List.subset_cons_self c s))
    simpa [Plain] using isPlain_toUpper first

theorem Plain.uncapitalise {s : Text} (plain : Plain s) : Plain (uncapitalise s) := by
  cases s with
  | nil => exact plain
  | cons c s =>
    have first := plain c (by simp)
    rw [Text.uncapitalise, lowerChar_of_isPlain first]
    refine Plain.append ?_ (plain.of_subset (List.subset_cons_self c s))
    simpa [Plain] using isPlain_toLower first

theorem lower_of_plain {s : Text} (plain : Plain s) : lower s = s.map Char.toLower :=
  lower_of_ascii fun c member => toNat_lt_of_isPlain (plain c member)

theorem Plain.lower {s : Text} (plain : Plain s) : Plain (lower s) := by
  rw [lower_of_plain plain]
  intro c member
  obtain ⟨d, inside, rfl⟩ := List.mem_map.1 member
  exact isPlain_toLower (plain d inside)

end Text

namespace Naming

variable {s : Text}

theorem Plain.raiseWords (plain : Text.Plain s) : Text.Plain (raiseWords s) := by
  fun_induction Naming.raiseWords s with
  | case1 => exact plain
  | case2 c => exact plain
  | case3 c d s raised ih =>
    have second := plain d (by simp)
    rw [Text.upperChar_of_isPlain second]
    refine Text.Plain.append ?_ (ih (plain.of_subset fun x member => by simp [member]))
    simpa [Text.Plain] using Text.isPlain_toUpper second
  | case4 c d s kept ih =>
    refine Text.Plain.append (s := [c]) ?_ (ih (plain.of_subset (List.subset_cons_self c _)))
    simpa [Text.Plain] using plain c (by simp)

theorem Plain.pascal (plain : Text.Plain s) : Text.Plain (pascal s) :=
  (Plain.raiseWords plain).capitalise

theorem Plain.camel (plain : Text.Plain s) : Text.Plain (camel s) :=
  (Plain.pascal plain).uncapitalise

theorem Plain.markCapitals (plain : Text.Plain s) : Text.Plain (markCapitals s) := by
  intro x member
  simp only [Naming.markCapitals, List.mem_flatMap] at member
  obtain ⟨c, inside, here⟩ := member
  split at here
  · rcases List.mem_cons.1 here with rfl | here
    · rfl
    · rw [List.mem_singleton.1 here]
      exact plain c inside
  · rw [List.mem_singleton.1 here]
    exact plain c inside

theorem Plain.snake (plain : Text.Plain s) : Text.Plain (snake s) :=
  (Plain.markCapitals plain).lower.of_subset fun _ member => mem_dropOne member

theorem Plain.pluralise (plain : Text.Plain s) : Text.Plain (pluralise s) := by
  unfold Naming.pluralise
  split
  · exact (plain.of_subset (List.dropLast_subset s)).append (by decide)
  · split
    · exact plain.append (by decide)
    · exact plain.append (by decide)

theorem Plain.singularise (plain : Text.Plain s) : Text.Plain (singularise s) := by
  unfold Naming.singularise
  split
  · next stem found =>
    rw [Text.before?_eq_some_iff] at found
    subst found
    exact (plain.of_subset (List.subset_append_left _ _)).append (by decide)
  · split
    · exact plain.of_subset (List.take_subset _ _)
    · split
      · exact plain.of_subset (List.dropLast_subset s)
      · exact plain

/-! ## Spellings that are never empty -/

theorem pluralise_ne_nil (s : Text) : pluralise s ≠ [] := by
  unfold pluralise
  split
  · simp
  · split <;> simp

theorem raiseWords_ne_nil (plain : Text.Plain s) (nonempty : s ≠ []) : raiseWords s ≠ [] := by
  fun_cases raiseWords s with
  | case1 => exact nonempty
  | case2 c => simp
  | case3 c d s raised => simp [Text.upperChar_of_isPlain (plain d (by simp))]
  | case4 c d s kept => simp

theorem pascal_ne_nil (plain : Text.Plain s) (nonempty : s ≠ []) : pascal s ≠ [] := by
  have words := raiseWords_ne_nil plain nonempty
  have plainWords := Plain.raiseWords plain
  unfold pascal
  cases found : raiseWords s with
  | nil => exact absurd found words
  | cons c rest =>
    rw [found] at plainWords
    simp [Text.capitalise, Text.upperChar_of_isPlain (plainWords c (by simp))]

theorem camel_ne_nil (plain : Text.Plain s) (nonempty : s ≠ []) : camel s ≠ [] := by
  have word := pascal_ne_nil plain nonempty
  have plainWord := Plain.pascal plain
  unfold camel
  cases found : pascal s with
  | nil => exact absurd found word
  | cons c rest =>
    rw [found] at plainWord
    simp [Text.uncapitalise, Text.lowerChar_of_isPlain (plainWord c (by simp))]

/-! ## Spellings of identifiers -/

/-- A word without separators is one word. -/
theorem raiseWords_of_joined (joined : ∀ c ∈ s, isSeparator c = false) : raiseWords s = s := by
  fun_induction raiseWords s with
  | case1 => rfl
  | case2 c => rfl
  | case3 c d s raised ih =>
    rw [joined c (by simp)] at raised
    cases raised
  | case4 c d s kept ih => rw [ih fun x member => joined x (List.mem_cons_of_mem _ member)]

theorem not_isSeparator_of_isAlphanum {c : Char} (letter : c.isAlphanum = true) :
    isSeparator c = false := by
  rw [Bool.eq_false_iff, Ne, isSeparator, Bool.or_eq_true, decide_eq_true_eq, decide_eq_true_eq]
  rintro (rfl | rfl) <;> exact absurd letter (by decide)

theorem raiseWords_of_alphanum (letters : ∀ c ∈ s, c.isAlphanum = true) : raiseWords s = s :=
  raiseWords_of_joined fun c member => not_isSeparator_of_isAlphanum (letters c member)

theorem toUpper_injective {c d : Char} (first : c.isLower = true) (second : d.isLower = true)
    (same : c.toUpper = d.toUpper) : c = d := by
  simp only [Char.isLower, Bool.and_eq_true, decide_eq_true_eq, ge_iff_le] at first second
  unfold Char.toUpper at same
  rw [dif_pos first, dif_pos second] at same
  have values := congrArg Char.val same
  exact Char.ext (by simpa using values)

/-- The spelling in capitals of an identifier that begins with a small letter. -/
theorem pascal_cons {c : Char} {s : Text} (first : c.isLower = true)
    (letters : ∀ x ∈ s, x.isAlphanum = true) : pascal (c :: s) = c.toUpper :: s := by
  have letter : c.isAlphanum = true := by simp [Char.isAlphanum, Char.isAlpha, first]
  have kept := raiseWords_of_alphanum (s := c :: s) fun x member => by
    rcases List.mem_cons.1 member with rfl | member
    · exact letter
    · exact letters x member
  rw [pascal, kept, Text.capitalise, Text.upperChar_of_isPlain (by simp [Text.isPlain, letter])]
  rfl

/-- Two identifiers that begin with a small letter have different spellings in capitals. -/
theorem pascal_injective {c d : Char} {s t : Text} (first : c.isLower = true)
    (second : d.isLower = true) (letters : ∀ x ∈ s, x.isAlphanum = true)
    (others : ∀ x ∈ t, x.isAlphanum = true) (same : pascal (c :: s) = pascal (d :: t)) :
    c :: s = d :: t := by
  rw [pascal_cons first letters, pascal_cons second others] at same
  obtain ⟨head, rfl⟩ := List.cons.inj same
  rw [toUpper_injective first second head]

end Naming

end Groundwork
