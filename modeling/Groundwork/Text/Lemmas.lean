import Groundwork.Text.Basic

/-!
# Laws of text operations

`after?` and `before?` recognise exactly the texts that begin or end with a literal, `split` is
undone by `List.intercalate`, and `search` succeeds exactly if its recogniser does at some place.
-/

namespace Groundwork.Text

theorem after?_eq_some_iff {lit s rest : Text} : after? lit s = some rest ↔ s = lit ++ rest := by
  induction lit generalizing s with
  | nil => simp [after?]
  | cons c lit ih =>
    cases s with
    | nil => simp [after?]
    | cons d s =>
      by_cases h : c = d
      · simp [after?, h, ih]
      · simp [after?, h, Ne.symm h]

theorem before?_eq_some_iff {lit s front : Text} :
    before? lit s = some front ↔ s = front ++ lit := by
  simp only [before?, Option.map_eq_some_iff, after?_eq_some_iff]
  constructor
  · rintro ⟨rest, h, rfl⟩
    rw [← List.reverse_reverse s, h]
    simp
  · rintro rfl
    exact ⟨front.reverse, by simp, by simp⟩

theorem endsWith_iff {lit s : Text} : endsWith lit s = true ↔ lit <:+ s := by
  simp only [endsWith, Option.isSome_iff_exists, before?_eq_some_iff]
  exact ⟨fun ⟨front, h⟩ => ⟨front, h.symm⟩, fun ⟨front, h⟩ => ⟨front, h.symm⟩⟩

theorem endsWith_eq_false_iff {lit s : Text} : endsWith lit s = false ↔ before? lit s = none := by
  rw [endsWith, Option.isSome_eq_false_iff, Option.isNone_iff_eq_none]

/-! ## Splitting -/

theorem split_ne_nil (sep : Char) (s : Text) : split sep s ≠ [] := by
  cases s with
  | nil => simp [split]
  | cons c s =>
    unfold split
    split
    · simp
    · split <;> simp

/-- The pieces put together again with the character between them are the text. -/
theorem intercalate_split (sep : Char) (s : Text) : List.intercalate [sep] (split sep s) = s := by
  induction s with
  | nil => rfl
  | cons c s ih =>
    cases hs : split sep s with
    | nil => exact absurd hs (split_ne_nil sep s)
    | cons piece pieces =>
      rw [hs] at ih
      by_cases h : c = sep
      · simp only [split, h, if_true, hs]
        rw [List.intercalate_cons_cons, ih]
        rfl
      · simp only [split, h, if_false, hs]
        cases pieces with
        | nil => simp_all [List.intercalate_singleton]
        | cons next pieces =>
          rw [List.intercalate_cons_cons] at ih ⊢
          simp_all

theorem split_append (sep : Char) (s t : Text) :
    split sep (s ++ sep :: t) = split sep s ++ split sep t := by
  induction s with
  | nil => simp [split]
  | cons c s ih =>
    by_cases same : c = sep
    · simp [split, same, ih]
    · obtain ⟨piece, pieces, cut⟩ := List.exists_cons_of_ne_nil (split_ne_nil sep s)
      rw [cut] at ih
      simp [split, same, ih, cut]

theorem split_of_not_mem {sep : Char} {s : Text} (none : sep ∉ s) : split sep s = [s] := by
  induction s with
  | nil => rfl
  | cons c s ih =>
    have other : c ≠ sep := by
      rintro rfl
      simp at none
    have rest := ih fun member => none (List.mem_cons_of_mem _ member)
    simp [split, other, rest]

/-- Pieces without the character are found again when they are put together with it between
    them. -/
theorem split_intercalate {sep : Char} {pieces : List Text} (nonempty : pieces ≠ [])
    (apart : ∀ piece ∈ pieces, sep ∉ piece) :
    split sep (List.intercalate [sep] pieces) = pieces := by
  induction pieces with
  | nil => exact absurd rfl nonempty
  | cons piece pieces ih =>
    have own := split_of_not_mem (apart piece List.mem_cons_self)
    cases pieces with
    | nil => rw [List.intercalate_singleton, own]
    | cons next pieces =>
      have rest := ih (List.cons_ne_nil _ _) fun later member =>
        apart later (List.mem_cons_of_mem _ member)
      rw [List.intercalate_cons_cons, List.append_assoc, List.singleton_append, split_append, own,
        rest]
      rfl

/-- No piece holds the character at which the text was split. -/
theorem not_mem_of_mem_split {sep : Char} {s piece : Text} (h : piece ∈ split sep s) :
    sep ∉ piece := by
  induction s generalizing piece with
  | nil => simp_all [split]
  | cons c s ih =>
    cases hs : split sep s with
    | nil => exact absurd hs (split_ne_nil sep s)
    | cons first pieces =>
      by_cases hc : c = sep
      · simp only [split, hc, if_true, List.mem_cons] at h
        rcases h with rfl | h
        · simp
        · exact ih h
      · simp only [split, hc, if_false, hs, List.mem_cons] at h
        rcases h with rfl | h
        · simpa [Ne.symm hc] using ih (hs ▸ List.mem_cons_self)
        · exact ih (hs ▸ List.mem_cons_of_mem _ h)

/-- All pieces of a text stand in it. -/
theorem subset_of_mem_split (sep : Char) {s piece : Text} (member : piece ∈ split sep s) :
    piece ⊆ s := by
  rw [← intercalate_split sep s]
  generalize split sep s = pieces at member
  induction pieces with
  | nil => simp at member
  | cons first pieces ih =>
    cases pieces with
    | nil => simp_all
    | cons next pieces =>
      rw [List.intercalate_cons_cons]
      rcases List.mem_cons.1 member with rfl | member
      · intro c inside
        simp [inside]
      · intro c inside
        simp [ih member inside]

/-! ## Searching -/

/-- The character before the place after `front`, where `before` precedes `front`. -/
def charBefore (before : Option Char) : (front : Text) → Option Char
  | [] => before
  | c :: front => charBefore (some c) front

/-- What a search finds begins right after the text before it. -/
theorem recognise_of_search {α : Type} {recognise : Option Char → Text → Option α}
    {before : Option Char} {s front : Text} {found : α}
    (h : search recognise before s = some (front, found)) :
    ∃ rest, s = front ++ rest ∧ recognise (charBefore before front) rest = some found := by
  induction s generalizing before front with
  | nil =>
    simp only [search, Option.map_eq_some_iff, Prod.mk.injEq] at h
    obtain ⟨_, h, rfl, rfl⟩ := h
    exact ⟨[], rfl, h⟩
  | cons c s ih =>
    unfold search at h
    split at h
    · next found' hf =>
      simp only [Option.some.injEq, Prod.mk.injEq] at h
      obtain ⟨rfl, rfl⟩ := h
      exact ⟨c :: s, rfl, hf⟩
    · simp only [Option.map_eq_some_iff, Prod.mk.injEq] at h
      obtain ⟨⟨front', _⟩, h, rfl, rfl⟩ := h
      obtain ⟨rest, rfl, hr⟩ := ih h
      exact ⟨rest, rfl, hr⟩

/-- A search finds nothing exactly if the recogniser fails at every place. -/
theorem search_eq_none_iff {α : Type} {recognise : Option Char → Text → Option α}
    {before : Option Char} {s : Text} :
    search recognise before s = none ↔
      ∀ front rest, s = front ++ rest → recognise (charBefore before front) rest = none := by
  induction s generalizing before with
  | nil =>
    simp only [search, Option.map_eq_none_iff]
    constructor
    · intro h front rest hs
      obtain ⟨rfl, rfl⟩ := List.append_eq_nil_iff.1 hs.symm
      exact h
    · exact fun h => h [] [] rfl
  | cons c s ih =>
    unfold search
    cases hr : recognise before (c :: s) with
    | some found =>
      simp only [reduceCtorEq, false_iff]
      intro h
      have := h [] (c :: s) rfl
      simp_all [charBefore]
    | none =>
      simp only [Option.map_eq_none_iff, ih]
      constructor
      · intro h front rest hs
        cases front with
        | nil => subst hs; exact hr
        | cons d front =>
          obtain ⟨rfl, rfl⟩ := List.cons.inj hs
          exact h front rest rfl
      · intro h front rest hs
        exact h (c :: front) rest (by rw [hs]; rfl)

theorem not_mem_normaliseLineEnds (s : Text) : '\r' ∉ normaliseLineEnds s := by
  fun_induction normaliseLineEnds s <;> simp_all [eq_comm]

end Groundwork.Text
