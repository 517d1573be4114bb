import Groundwork.Proofs.Text.Search

/-!
# Lines of generated text

Texts on one line, and texts of several lines in which every line after the first is indented. Both
properties pass from the parts of a text to the whole, and a recogniser of lines that need a certain
first character fails in all of an indented text (`OfLines.failsWithin_indented`).
-/

namespace Groundwork.Text

/-- The text has no line feed and no carriage return. -/
def isOneLine (s : Text) : Bool := s.all fun c => c ≠ '\n' && c ≠ '\r'

theorem isOneLine_iff {s : Text} : isOneLine s = true ↔ '\n' ∉ s ∧ '\r' ∉ s := by
  simp only [isOneLine, List.all_eq_true, Bool.and_eq_true, decide_eq_true_eq]
  constructor
  · intro all
    exact ⟨fun member => (all _ member).1 rfl, fun member => (all _ member).2 rfl⟩
  · rintro ⟨noFeed, noReturn⟩ c member
    refine ⟨?_, ?_⟩
    · rintro rfl
      exact noFeed member
    · rintro rfl
      exact noReturn member

@[simp] theorem isOneLine_nil : isOneLine [] = true := rfl

@[simp] theorem isOneLine_append (a b : Text) :
    isOneLine (a ++ b) = (isOneLine a && isOneLine b) := by
  simp [isOneLine]

@[simp] theorem isOneLine_cons (c : Char) (s : Text) :
    isOneLine (c :: s) = ((c ≠ '\n' && c ≠ '\r') && isOneLine s) := rfl

theorem isOneLine_of_subset {s t : Text} (subset : s ⊆ t) (oneLine : isOneLine t = true) :
    isOneLine s = true := by
  rw [isOneLine_iff] at oneLine ⊢
  exact ⟨fun member => oneLine.1 (subset member), fun member => oneLine.2 (subset member)⟩

theorem intercalate_cons (gap first : Text) (rest : List Text) :
    List.intercalate gap (first :: rest) = first ++ rest.flatMap (gap ++ ·) := by
  induction rest generalizing first with
  | nil => simp
  | cons next rest ih =>
    rw [List.intercalate_cons_cons, ih next]
    simp

theorem intercalate_cut (gap : Text) (before after : List Text) (piece : Text) :
    List.intercalate gap (before ++ piece :: after) =
      before.flatMap (· ++ gap) ++ (piece ++ after.flatMap (gap ++ ·)) := by
  induction before with
  | nil => simpa using intercalate_cons gap piece after
  | cons first before ih =>
    obtain ⟨next, rest, same⟩ : ∃ next rest, before ++ piece :: after = next :: rest := by
      cases before <;> simp
    rw [same] at ih
    rw [List.cons_append, same, List.intercalate_cons_cons, ih]
    simp

/-- Several pieces in a row stand between those before them and those after them. -/
theorem intercalate_around (gap : Text) (before after : List Text) {middle : List Text}
    (nonempty : middle ≠ []) :
    List.intercalate gap (before ++ (middle ++ after)) =
      before.flatMap (· ++ gap) ++ (List.intercalate gap middle ++ after.flatMap (gap ++ ·)) := by
  obtain ⟨piece, rest, rfl⟩ := List.exists_cons_of_ne_nil nonempty
  rw [List.cons_append, intercalate_cut, intercalate_cons, List.flatMap_append, List.append_assoc]

theorem mem_intercalate {c : Char} {gap : Text} {pieces : List Text}
    (member : c ∈ List.intercalate gap pieces) : c ∈ gap ∨ ∃ piece ∈ pieces, c ∈ piece := by
  induction pieces with
  | nil => simp at member
  | cons first pieces ih =>
    cases pieces with
    | nil => exact .inr ⟨first, by simp, by simpa using member⟩
    | cons next pieces =>
      rw [List.intercalate_cons_cons] at member
      rcases List.mem_append.1 member with here | later
      · rcases List.mem_append.1 here with inFirst | inGap
        · exact .inr ⟨first, by simp, inFirst⟩
        · exact .inl inGap
      · rcases ih later with inGap | ⟨piece, listed, inside⟩
        · exact .inl inGap
        · exact .inr ⟨piece, List.mem_cons_of_mem _ listed, inside⟩

/-- Every line feed is followed by a space. -/
def isIndented : Text → Bool
  | [] => true
  | c :: s => (c ≠ '\n' || s.head? = some ' ') && isIndented s

theorem isIndented_append {a b : Text} (first : isIndented a = true)
    (second : isIndented b = true) : isIndented (a ++ b) = true := by
  induction a with
  | nil => exact second
  | cons c a ih =>
    simp only [isIndented, Bool.and_eq_true, Bool.or_eq_true, decide_eq_true_eq] at first
    simp only [List.cons_append, isIndented, Bool.and_eq_true, Bool.or_eq_true, decide_eq_true_eq]
    refine ⟨first.1.imp_right fun space => ?_, ih first.2⟩
    cases a with
    | nil => simp at space
    | cons d a => exact space

theorem isIndented_of_isOneLine {s : Text} (oneLine : isOneLine s = true) :
    isIndented s = true := by
  induction s with
  | nil => rfl
  | cons c s ih =>
    simp only [isOneLine, List.all_cons, Bool.and_eq_true] at oneLine
    simp only [isIndented, ih oneLine.2, Bool.and_true, Bool.or_eq_true]
    exact .inl oneLine.1.1

/-- A line with lines after it that begin with a space. -/
theorem isIndented_intercalate {first : Text} {lines : List Text}
    (begins : isIndented first = true)
    (all : ∀ line ∈ lines, line.head? = some ' ' ∧ isIndented line = true) :
    isIndented (List.intercalate ['\n'] (first :: lines)) = true := by
  induction lines generalizing first with
  | nil => simpa using begins
  | cons next lines ih =>
    obtain ⟨space, indented⟩ := all next (by simp)
    have rest := ih indented fun line member => all line (List.mem_cons_of_mem _ member)
    rw [List.intercalate_cons_cons, List.append_assoc]
    refine isIndented_append begins ?_
    have head : (List.intercalate ['\n'] (next :: lines)).head? = some ' ' := by
      cases next with
      | nil => simp at space
      | cons c next =>
        cases lines with
        | nil => simpa using space
        | cons other lines => simpa [List.intercalate_cons_cons] using space
    simp [isIndented, head, rest]

theorem eq_space_of_isIndented {s a b : Text} {c : Char} (indented : isIndented s = true)
    (cut : s = a ++ '\n' :: c :: b) : c = ' ' := by
  induction a generalizing s with
  | nil =>
    subst cut
    simp only [List.nil_append, isIndented, Bool.and_eq_true, Bool.or_eq_true,
      decide_eq_true_eq, List.head?_cons, Option.some.injEq] at indented
    exact indented.1.resolve_left (fun other => other rfl)
  | cons d a ih =>
    subst cut
    simp only [List.cons_append, isIndented, Bool.and_eq_true] at indented
    exact ih indented.2 rfl

theorem not_endsWith_feed_of_isIndented {a : Text} : isIndented (a ++ ['\n']) = false := by
  induction a with
  | nil => rfl
  | cons d a ih => simp [isIndented, ih]

/-- A recogniser of lines that fails at lines with a space in front fails in an indented text and
    at the line feed after it. -/
theorem OfLines.failsWithin_indented {α : Type} {recognise : Option Char → Text → Option α}
    (lines : OfLines recognise) (spaces : ∀ before s, recognise before (' ' :: s) = none)
    {before : Option Char} {p t : Text} (inside : beginsLine before = false)
    (indented : isIndented p = true) :
    FailsWithin recognise before (p ++ ['\n']) t := by
  intro a b cut nonempty
  rcases List.eq_nil_or_concat a with rfl | ⟨a, c, rfl⟩
  · exact lines _ _ inside
  · rw [List.concat_eq_append] at cut ⊢
    rw [charBefore_concat]
    by_cases feed : c = '\n'
    · subst feed
      -- a line begins here, and the line feed at the end of the whole is not in front of it
      obtain ⟨b, last, rfl⟩ := (List.eq_nil_or_concat b).resolve_left nonempty
      rw [List.concat_eq_append, ← List.append_assoc] at cut
      obtain ⟨cut, -⟩ := List.append_inj' cut rfl
      cases b with
      | nil =>
        rw [List.append_nil] at cut
        rw [cut, not_endsWith_feed_of_isIndented] at indented
        exact absurd indented (by decide)
      | cons d b =>
        obtain rfl := eq_space_of_isIndented indented (by simpa using cut)
        exact spaces _ _
    · exact lines _ _ (by simpa [beginsLine] using feed)

end Groundwork.Text
