import Groundwork.Proofs.Text.Search
import Mathlib.Data.List.Infix

/-!
# Seams between texts

Where two texts meet, something may be found that neither of them holds. At a sealed seam nothing is
(`search_isSome_append`). A recogniser of certain phrases has a sealed seam wherever no phrase can
reach over it (`RecognisesPhrases.sealed`).
-/

namespace Groundwork.Text

variable {recognise : Option Char → Text → Option Unit}

/-- What follows a text does not change where something is found in it. -/
def Sealed (recognise : Option Char → Text → Option Unit) (x y : Text) : Prop :=
  ∀ before z, z ≠ [] → z <:+ x →
    ((recognise before (z ++ y)).isSome = true ↔ (recognise before z).isSome = true)

/-- What is found in two texts with a sealed seam is found in one of them. -/
theorem search_isSome_append {x y : Text} (empty : ∀ before, recognise before [] = none)
    (seam : Sealed recognise x y) (before : Option Char) :
    (search recognise before (x ++ y)).isSome = true ↔
      (search recognise before x).isSome = true ∨
        (search recognise (charBefore before x) y).isSome = true := by
  induction x generalizing before with
  | nil => simp [search, empty, charBefore]
  | cons c x ih =>
    have rest := ih (fun before z nonempty suffix =>
      seam before z nonempty (suffix.trans (List.suffix_cons c x))) (some c)
    have here := seam before (c :: x) (by simp) (List.suffix_refl _)
    rw [List.cons_append] at here
    rw [List.cons_append, search, search]
    cases longer : recognise before (c :: (x ++ y)) with
    | some found =>
      rw [longer] at here
      obtain ⟨⟨⟩, shorter⟩ := Option.isSome_iff_exists.1 (here.1 rfl)
      simp [shorter]
    | none =>
      rw [longer] at here
      cases shorter : recognise before (c :: x) with
      | some found => simp [shorter] at here
      | none => simpa [charBefore] using rest

/-- A part in which nothing is found can be left out in front. -/
theorem search_isSome_skip {before : Option Char} {x y : Text}
    (fails : FailsWithin recognise before x y) :
    (search recognise before (x ++ y)).isSome = true ↔
      (search recognise (charBefore before x) y).isSome = true := by
  rw [search_skip fails, Option.isSome_map]

/-- The recogniser succeeds where one of the phrases begins, if the character before fits. -/
structure RecognisesPhrases (recognise : Option Char → Text → Option Unit)
    (fits : Option Char → Bool) (phrases : Text → Prop) : Prop where
  spec : ∀ before s, (recognise before s).isSome = true ↔
    fits before = true ∧ ∃ w, phrases w ∧ w <+: s
  nonempty : ∀ w, phrases w → w ≠ []

namespace RecognisesPhrases

variable {fits : Option Char → Bool} {phrases : Text → Prop}

theorem eq_none_nil (recognises : RecognisesPhrases recognise fits phrases)
    (before : Option Char) : recognise before [] = none := by
  rw [← Option.not_isSome_iff_eq_none]
  intro found
  obtain ⟨-, w, phrase, here⟩ := (recognises.spec _ _).1 found
  exact recognises.nonempty w phrase (List.prefix_nil.1 here)

/-- A seam is sealed if no phrase reaches over it. -/
theorem sealed (recognises : RecognisesPhrases recognise fits phrases) {x y : Text}
    (apart : ∀ z e, z ≠ [] → z <:+ x → e ≠ [] → e <+: y → ¬ phrases (z ++ e)) :
    Sealed recognise x y := by
  intro before z nonempty suffix
  rw [recognises.spec, recognises.spec]
  refine and_congr_right fun _ => ⟨?_, ?_⟩
  · rintro ⟨w, phrase, rest, same⟩
    refine ⟨w, phrase, ?_⟩
    rcases List.append_eq_append_iff.1 same with ⟨e, rfl, -⟩ | ⟨e, rfl, rfl⟩
    · exact List.prefix_append _ _
    · by_cases empty : e = []
      · simp [empty]
      · exact absurd phrase (apart z e nonempty suffix empty (List.prefix_append _ _))
  · rintro ⟨w, phrase, here⟩
    exact ⟨w, phrase, here.trans (List.prefix_append _ _)⟩

/-- A seam after a character is sealed if no phrase goes on over it from that character. -/
theorem sealed_concat (recognises : RecognisesPhrases recognise fits phrases) {x y : Text}
    {c : Char} (apart : ∀ z e, e ≠ [] → e <+: y → ¬ phrases (z ++ c :: e)) :
    Sealed recognise (x ++ [c]) y := by
  refine recognises.sealed fun z e filled suffix nonempty begun phrase => ?_
  obtain ⟨z, d, rfl⟩ := (List.eq_nil_or_concat z).resolve_left filled
  obtain ⟨u, cut⟩ := suffix
  rw [List.concat_eq_append, ← List.append_assoc] at cut
  obtain rfl := List.singleton_inj.1 (List.append_inj' cut rfl).2
  rw [List.concat_eq_append, List.append_assoc] at phrase
  exact apart z e nonempty begun phrase

end RecognisesPhrases

end Groundwork.Text
