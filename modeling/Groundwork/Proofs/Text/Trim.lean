import Groundwork.Proofs.Text.Span

/-!
# Blanks at the ends of a text

Trimming takes away the blanks at the ends of a text and nothing else (`exists_trim`). So it makes
no difference whether there are more of them (`trim_around`), and there is nothing left to take away
from a trimmed text (`trim_trim`).
-/

namespace Groundwork.Text

variable {s front back : Text}

theorem trim_subset (s : Text) : trim s ⊆ s := by
  intro c member
  have outer := (List.dropWhile_sublist isBlank).subset (List.mem_reverse.1 member)
  exact (List.dropWhile_sublist isBlank).subset (List.mem_reverse.1 outer)

/-- A text is what trimming leaves of it, between blanks. -/
theorem exists_trim (s : Text) : ∃ front back, s = front ++ trim s ++ back ∧
    front.all isBlank = true ∧ back.all isBlank = true := by
  obtain ⟨front, cut, blank, -⟩ := dropBlanks_eq_iff.1 (rfl : dropBlanks s = _)
  obtain ⟨back, cutBack, blankBack, -⟩ :=
    dropBlanks_eq_iff.1 (rfl : dropBlanks (dropBlanks s).reverse = _)
  have inner : dropBlanks s = trim s ++ back.reverse := by
    rw [← List.reverse_reverse (dropBlanks s), cutBack, List.reverse_append]
    rfl
  refine ⟨front, back.reverse, ?_, blank, by rwa [List.all_reverse]⟩
  rw [List.append_assoc, ← inner]
  exact cut

/-- Blanks around a text make no difference to what trimming leaves. -/
theorem trim_around (s : Text) (before : front.all isBlank = true)
    (after : back.all isBlank = true) : trim (front ++ s ++ back) = trim s := by
  have opening : dropBlanks (front ++ s ++ back) = dropBlanks (s ++ back) := by
    rw [List.append_assoc]
    exact List.dropWhile_append_of_pos (List.all_eq_true.1 before)
  have closing (t : Text) : dropBlanks (back.reverse ++ t) = dropBlanks t :=
    List.dropWhile_append_of_pos fun c member => List.all_eq_true.1 after c (by simpa using member)
  unfold trim
  rw [opening]
  by_cases blank : s.all isBlank = true
  · -- Nothing but blanks is left of `s` here, and nothing at all there.
    have all : (s ++ back).all isBlank = true := by rw [List.all_append, blank, after]; rfl
    rw [show dropBlanks (s ++ back) = [] from List.dropWhile_eq_nil_iff.2 (List.all_eq_true.1 all),
      show dropBlanks s = [] from List.dropWhile_eq_nil_iff.2 (List.all_eq_true.1 blank)]
  · have some : ¬ (s.dropWhile isBlank).isEmpty = true := by
      rwa [List.isEmpty_iff, List.dropWhile_eq_nil_iff, ← List.all_eq_true]
    have inner : dropBlanks (s ++ back) = dropBlanks s ++ back := by
      unfold dropBlanks
      rw [List.dropWhile_append, if_neg some]
    rw [inner, List.reverse_append, closing]

theorem trim_trim (s : Text) : trim (trim s) = trim s := by
  obtain ⟨front, back, cut, before, after⟩ := exists_trim s
  have around := trim_around (trim s) before after
  rw [← cut] at around
  exact around.symm

end Groundwork.Text
