import Mathlib
import Groundwork.Proofs.Text.Search
import Groundwork.Text.Blank
import Groundwork.Text.Word

/-!
# Runs of characters

What is cut off by taking all characters of one kind is told by what follows them
(`span_eq_iff`). A recogniser that reads literals, words and blanks is described part by part that
way, and a part without a character ends before that character (`cut_before`).
-/

namespace Groundwork.Text

/-- The text does not go on with a character of the kind. -/
def Stops (p : Char → Bool) (s : Text) : Prop := s.head?.all (fun c => !p c) = true

@[simp] theorem stops_nil (p : Char → Bool) : Stops p [] := rfl

@[simp] theorem stops_cons (p : Char → Bool) (c : Char) (s : Text) :
    Stops p (c :: s) ↔ p c = false := by
  simp [Stops]

/-- A run of characters of one kind is cut off at the first character of another kind. -/
theorem span_eq_iff {p : Char → Bool} {s run rest : Text} :
    s.span p = (run, rest) ↔ s = run ++ rest ∧ run.all p = true ∧ Stops p rest := by
  rw [List.span_eq_takeWhile_dropWhile, Prod.mk.injEq]
  constructor
  · rintro ⟨rfl, rfl⟩
    refine ⟨by simp, by simp [List.all_takeWhile], ?_⟩
    have head := List.head?_dropWhile_not p s
    unfold Stops
    cases next : (s.dropWhile p).head? with
    | none => rfl
    | some c => simpa [next] using head
  · rintro ⟨rfl, all, stops⟩
    have kind : ∀ c ∈ run, p c = true := List.all_eq_true.1 all
    rw [List.takeWhile_append_of_pos kind, List.dropWhile_append_of_pos kind]
    cases rest with
    | nil => simp
    | cons c rest =>
      have other : p c = false := by simpa using stops
      simp [other]

/-- A text is cut at the first of the characters that are alike. -/
theorem span_ne_eq_iff {d : Char} {s run rest : Text} :
    s.span (· ≠ d) = (run, d :: rest) ↔ s = run ++ d :: rest ∧ d ∉ run := by
  rw [span_eq_iff]
  simp only [stops_cons, ne_eq, not_true_eq_false, decide_false, and_true, and_congr_right_iff,
    List.all_eq_true, decide_eq_true_eq]
  rintro -
  exact ⟨fun all member => all _ member rfl, fun absent c member same => absent (same ▸ member)⟩

/-- A text that does not go on with one kind of characters does not do so after a run of another
    kind. -/
theorem Stops.after_run {p q : Char → Bool} {run s : Text} (stops : Stops q s)
    (all : run.all p = true) (apart : ∀ c, p c = true → q c = false) : Stops q (run ++ s) := by
  cases run with
  | nil => exact stops
  | cons c run =>
    rw [List.all_cons, Bool.and_eq_true] at all
    exact (stops_cons _ _ _).2 (apart c all.1)

/-- A text is cut in one way only into a run of one kind and a rest that goes on otherwise. -/
theorem run_unique {p : Char → Bool} {a b s t : Text} (same : a ++ s = b ++ t)
    (first : a.all p = true) (firstStops : Stops p s) (second : b.all p = true)
    (secondStops : Stops p t) : a = b ∧ s = t := by
  have cut := span_eq_iff.2 ⟨rfl, first, firstStops⟩
  rw [span_eq_iff.2 ⟨same, second, secondStops⟩] at cut
  exact ⟨(Prod.mk.inj cut).1.symm, (Prod.mk.inj cut).2.symm⟩

theorem dropWhile_eq_iff {p : Char → Bool} {s rest : Text} :
    s.dropWhile p = rest ↔ ∃ run, s = run ++ rest ∧ run.all p = true ∧ Stops p rest := by
  constructor
  · intro same
    refine ⟨s.takeWhile p, span_eq_iff.1 ?_⟩
    rw [List.span_eq_takeWhile_dropWhile, same]
  · rintro ⟨run, cut⟩
    have := span_eq_iff.2 cut
    rw [List.span_eq_takeWhile_dropWhile] at this
    exact (Prod.mk.inj this).2

theorem dropBlanks_eq_iff {s rest : Text} :
    dropBlanks s = rest ↔ ∃ blanks, s = blanks ++ rest ∧ blanks.all isBlank = true ∧
      Stops isBlank rest :=
  dropWhile_eq_iff

/-- A part without a character at the front of a text ends before that character in the text. -/
theorem cut_before {d : Char} {x t p s : Text} (absent : d ∉ p) (same : x ++ d :: t = p ++ s) :
    ∃ y, x = p ++ y ∧ s = y ++ d :: t := by
  rcases List.append_eq_append_iff.1 same with ⟨a, rfl, tail⟩ | ⟨a, rfl, tail⟩
  · cases a with
    | nil => exact ⟨[], by simp, tail.symm⟩
    | cons c a =>
      obtain ⟨rfl, -⟩ := List.cons.inj tail
      simp at absent
  · exact ⟨a, rfl, tail⟩

/-- Blanks at the front of a text end before a line feed of the text, or they reach to the first
    character after it that is no blank. -/
theorem cut_feed_blanks {x t blanks s : Text} (all : blanks.all isBlank = true)
    (stops : Stops isBlank t) (same : x ++ '\n' :: t = blanks ++ s) :
    (∃ y, x = blanks ++ y ∧ s = y ++ '\n' :: t) ∨ s = t := by
  rcases List.append_eq_append_iff.1 same with ⟨a, rfl, tail⟩ | ⟨a, rfl, tail⟩
  · cases a with
    | nil => exact .inl ⟨[], by simp, tail.symm⟩
    | cons c a =>
      right
      obtain ⟨rfl, rfl⟩ := List.cons.inj tail
      cases a with
      | nil => rfl
      | cons d a =>
        have other : isBlank d = false := by simpa using stops
        simp [other] at all
  · exact .inl ⟨a, rfl, tail⟩

/-- No range of word characters meets a range of blanks. -/
theorem wideBlanks_apart : (wideBlanks.all fun blanks => wideWordRanges.all fun letters =>
    blanks.2 < letters.1 || letters.2 < blanks.1) = true := by
  decide +kernel

theorem toNat_of_isAlphanum {c : Char} (letter : c.isAlphanum = true) :
    48 ≤ c.toNat ∧ c.toNat < 128 := by
  simp only [Char.isAlphanum, Char.isAlpha, Char.isUpper, Char.isLower, Char.isDigit,
    Bool.or_eq_true, Bool.and_eq_true, decide_eq_true_eq, UInt32.le_iff_toNat_le, ge_iff_le]
    at letter
  simp at letter
  omega

/-- No blank belongs to a word. -/
theorem not_isWord_of_isBlank {c : Char} (blank : isBlank c = true) : isWord c = false := by
  rw [← Bool.not_eq_true]
  intro letter
  simp only [isBlank, Bool.or_eq_true, Bool.and_eq_true, decide_eq_true_eq] at blank
  simp only [isWord, Bool.or_eq_true, Bool.and_eq_true, decide_eq_true_eq] at letter
  rcases blank with ((rfl | low) | low) | ⟨wide, among⟩
  · revert letter
    decide
  · rcases letter with (alphanum | rfl) | high
    · have := toNat_of_isAlphanum alphanum
      omega
    · simp at low
    · omega
  · rcases letter with (alphanum | rfl) | high
    · have := toNat_of_isAlphanum alphanum
      omega
    · simp at low
    · omega
  · rcases letter with (alphanum | rfl) | ⟨-, letters⟩
    · have := toNat_of_isAlphanum alphanum
      omega
    · simp at wide
    · obtain ⟨blanks, listedBlank, inside⟩ := List.any_eq_true.1 among
      obtain ⟨word, listedWord, within⟩ := List.any_eq_true.1 letters
      have apart := List.all_eq_true.1 (List.all_eq_true.1 wideBlanks_apart _ listedBlank) _
        listedWord
      simp only [Bool.and_eq_true, Bool.or_eq_true, decide_eq_true_eq] at inside within apart
      omega

/-- No word character is a line feed. -/
theorem not_mem_feed_of_all_isWord {s : Text} (letters : s.all isWord = true) : '\n' ∉ s := by
  intro member
  exact absurd (List.all_eq_true.1 letters _ member) (by decide)

end Groundwork.Text
