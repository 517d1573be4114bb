import Groundwork.Text.Lemmas

/-!
# Where a search succeeds

A search passes over every part of a text in which its recogniser fails (`search_skip`), and what it
finds is the first place where the recogniser succeeds (`search_eq_some_iff`). Recognisers of whole
lines fail inside of a line, so that only the starts of lines have to be looked at.
-/

namespace Groundwork.Text

variable {α : Type} {recognise : Option Char → Text → Option α}

theorem charBefore_append (before : Option Char) (x y : Text) :
    charBefore before (x ++ y) = charBefore (charBefore before x) y := by
  induction x generalizing before with
  | nil => rfl
  | cons c x ih => exact ih (some c)

@[simp] theorem charBefore_concat (before : Option Char) (x : Text) (c : Char) :
    charBefore before (x ++ [c]) = some c := by
  rw [charBefore_append]
  rfl

/-- A place begins a line only if nothing precedes it or a line feed does. -/
theorem beginsLine_charBefore_none {x : Text} :
    beginsLine (charBefore none x) = true ↔ x = [] ∨ ∃ y, x = y ++ ['\n'] := by
  rcases List.eq_nil_or_concat x with rfl | ⟨y, c, rfl⟩
  · simp [charBefore, beginsLine]
  · simp only [List.concat_eq_append, charBefore_concat, beginsLine, decide_eq_true_eq]
    constructor
    · rintro rfl
      exact .inr ⟨y, rfl⟩
    · rintro (empty | ⟨z, same⟩)
      · simp at empty
      · simpa using (List.append_inj' same rfl).2

/-- A line begins after texts that each end with a line feed. -/
theorem beginsLine_flatMap {β : Type} {before : Option Char} (begins : beginsLine before = true)
    {l : List β} {text : β → Text} (ends : ∀ b ∈ l, ∃ x, text b = x ++ ['\n']) :
    beginsLine (charBefore before (l.flatMap text)) = true := by
  induction l generalizing before with
  | nil => exact begins
  | cons b l ih =>
    obtain ⟨x, same⟩ := ends b (by simp)
    rw [List.flatMap_cons, charBefore_append]
    refine ih ?_ fun c member => ends c (List.mem_cons_of_mem _ member)
    rw [same, charBefore_concat]
    rfl

/-- The recogniser fails at every place inside `p`, where `t` follows. -/
def FailsWithin (recognise : Option Char → Text → Option α) (before : Option Char)
    (p t : Text) : Prop :=
  ∀ a b, p = a ++ b → b ≠ [] → recognise (charBefore before a) (b ++ t) = none

theorem failsWithin_nil (before : Option Char) (t : Text) :
    FailsWithin recognise before [] t := by
  intro a b cut nonempty
  exact absurd (List.append_eq_nil_iff.1 cut.symm).2 nonempty

theorem failsWithin_append {before : Option Char} {p q t : Text} :
    FailsWithin recognise before (p ++ q) t ↔
      FailsWithin recognise before p (q ++ t) ∧
        FailsWithin recognise (charBefore before p) q t := by
  constructor
  · intro fails
    refine ⟨?_, ?_⟩
    · rintro a b rfl nonempty
      have := fails a (b ++ q) (by simp) (by simp [nonempty])
      simpa using this
    · rintro a b rfl nonempty
      have := fails (p ++ a) b (by simp) nonempty
      rwa [charBefore_append] at this
  · rintro ⟨first, second⟩ a b cut nonempty
    rcases List.append_eq_append_iff.1 cut with ⟨c, rfl, rfl⟩ | ⟨c, rfl, rfl⟩
    · rw [charBefore_append]
      exact second c b rfl nonempty
    · by_cases empty : c = []
      · subst empty
        simp only [List.append_nil, List.nil_append] at first second nonempty ⊢
        exact second [] q rfl nonempty
      · have := first a c rfl empty
        simpa using this

theorem failsWithin_cons {before : Option Char} {c : Char} {p t : Text} :
    FailsWithin recognise before (c :: p) t ↔
      recognise before (c :: (p ++ t)) = none ∧ FailsWithin recognise (some c) p t := by
  rw [show c :: p = [c] ++ p from rfl, failsWithin_append]
  refine and_congr_left fun _ => ⟨fun fails => fails [] [c] rfl (by simp), fun fails => ?_⟩
  intro a b cut nonempty
  cases a with
  | nil =>
    obtain rfl : b = [c] := by simpa using cut.symm
    exact fails
  | cons d a =>
    have tail := (List.cons.inj cut).2
    exact absurd (List.append_eq_nil_iff.1 tail.symm).2 nonempty

/-- A search passes over a part in which it cannot succeed. -/
theorem search_skip {before : Option Char} {p t : Text} (fails : FailsWithin recognise before p t) :
    search recognise before (p ++ t) =
      (search recognise (charBefore before p) t).map fun found => (p ++ found.1, found.2) := by
  induction p generalizing before with
  | nil => simp [charBefore]
  | cons c p ih =>
    obtain ⟨here, rest⟩ := failsWithin_cons.1 fails
    simp only [List.cons_append, search, here, ih rest, Option.map_map]
    rfl

theorem search_here {before : Option Char} {t : Text} {found : α}
    (here : recognise before t = some found) :
    search recognise before t = some ([], found) := by
  cases t with
  | nil => simp [search, here]
  | cons c t => simp [search, here]

/-- A search cuts at the first place where its recogniser succeeds. -/
theorem search_eq_some_iff {before : Option Char} {s front : Text} {found : α} :
    search recognise before s = some (front, found) ↔
      ∃ rest, s = front ++ rest ∧ FailsWithin recognise before front rest ∧
        recognise (charBefore before front) rest = some found := by
  constructor
  · intro h
    induction s generalizing before front with
    | nil =>
      simp only [search, Option.map_eq_some_iff, Prod.mk.injEq] at h
      obtain ⟨_, here, rfl, rfl⟩ := h
      exact ⟨[], rfl, failsWithin_nil _ _, here⟩
    | cons c s ih =>
      unfold search at h
      cases here : recognise before (c :: s) with
      | some first =>
        simp only [here, Option.some.injEq, Prod.mk.injEq] at h
        obtain ⟨rfl, rfl⟩ := h
        exact ⟨c :: s, rfl, failsWithin_nil _ _, here⟩
      | none =>
        simp only [here, Option.map_eq_some_iff, Prod.mk.injEq] at h
        obtain ⟨⟨tail, _⟩, later, rfl, rfl⟩ := h
        obtain ⟨rest, rfl, fails, there⟩ := ih later
        exact ⟨rest, rfl, failsWithin_cons.2 ⟨here, fails⟩, there⟩
  · rintro ⟨rest, rfl, fails, here⟩
    rw [search_skip fails, search_here here]
    simp

/-- A search succeeds if its recogniser does at some place. -/
theorem search_isSome_iff {before : Option Char} {s : Text} :
    (search recognise before s).isSome = true ↔
      ∃ front rest, s = front ++ rest ∧
        (recognise (charBefore before front) rest).isSome = true := by
  constructor
  · intro succeeds
    obtain ⟨⟨front, found⟩, h⟩ := Option.isSome_iff_exists.1 succeeds
    obtain ⟨rest, rfl, here⟩ := recognise_of_search h
    exact ⟨front, rest, rfl, by simp [here]⟩
  · rintro ⟨front, rest, rfl, here⟩
    cases h : search recognise before (front ++ rest) with
    | some found => rfl
    | none =>
      rw [search_eq_none_iff.1 h front rest rfl] at here
      exact here

/-- What holds of all cuts of a text can be checked one place after another. -/
theorem forall_cut_iff {p : Text} {holds : Text → Text → Prop} :
    (∀ a b, p = a ++ b → holds a b) ↔
      ∀ i ∈ List.range (p.length + 1), holds (p.take i) (p.drop i) := by
  constructor
  · intro all i _
    exact all _ _ (List.take_append_drop i p).symm
  · rintro all a b rfl
    have within : a.length < (a ++ b).length + 1 := by
      rw [List.length_append]
      omega
    have here := all a.length (List.mem_range.2 within)
    simpa using here

/-! ## Lines -/

/-- A recogniser that succeeds only where a line begins. -/
def OfLines (recognise : Option Char → Text → Option α) : Prop :=
  ∀ before s, beginsLine before = false → recognise before s = none

/-- Inside of a line a recogniser of lines fails. -/
theorem OfLines.failsWithin_line (lines : OfLines recognise) {before : Option Char} {p t : Text}
    (noBreak : '\n' ∉ p) (start : p ≠ [] → recognise before (p ++ t) = none) :
    FailsWithin recognise before p t := by
  intro a b cut nonempty
  rcases List.eq_nil_or_concat a with rfl | ⟨a, c, rfl⟩
  · rw [cut] at start
    exact start nonempty
  · apply lines
    rw [List.concat_eq_append, charBefore_concat]
    have : c ≠ '\n' := by
      rintro rfl
      apply noBreak
      simp [cut]
    simpa [beginsLine] using this

end Groundwork.Text
