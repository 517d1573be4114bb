import Groundwork.Proofs.Disk.Reading
import Groundwork.Proofs.Text.Lines
import Groundwork.Proofs.Text.Span

/-!
# Line endings

A file is read with line feeds for all its line endings. A scanner that tells no line feed from a
carriage return cuts the text that is read where it cuts the text that stands: literals on one line
(`after?_normaliseLineEnds`), runs of characters of one kind (`takeWhile_normaliseLineEnds`,
`dropWhile_normaliseLineEnds`), and so all that is searched for with them
(`search_normaliseLineEnds`).
-/

namespace Groundwork.Text

variable {c : Char} {s t : Text}

theorem normaliseLineEnds_cons (other : c ≠ '\r') (s : Text) :
    normaliseLineEnds (c :: s) = c :: normaliseLineEnds s := by
  simp [normaliseLineEnds, other]

theorem normaliseLineEnds_return (noFeed : s.head? ≠ some '\n') :
    normaliseLineEnds ('\r' :: s) = '\n' :: normaliseLineEnds s := by
  have alone : ∀ t, s = '\n' :: t → False := fun t same => noFeed (by rw [same]; rfl)
  rw [normaliseLineEnds]
  exact alone

/-- A carriage return is read as a line feed, with the line feed after it or alone. -/
theorem exists_normaliseLineEnds_return (s : Text) :
    ∃ t, normaliseLineEnds ('\r' :: s) = '\n' :: t := by
  by_cases feed : s.head? = some '\n'
  · obtain ⟨t, rfl⟩ := List.head?_eq_some_iff.1 feed
    exact ⟨_, rfl⟩
  · exact ⟨_, normaliseLineEnds_return feed⟩

/-- A text is read one line ending, or one other character, after the other. -/
theorem lineEnds_induction {motive : Text → Prop} (nil : motive [])
    (both : ∀ s, motive s → motive ('\r' :: '\n' :: s))
    (alone : ∀ s, s.head? ≠ some '\n' → motive s → motive ('\r' :: s))
    (cons : ∀ c s, c ≠ '\r' → motive s → motive (c :: s)) (s : Text) : motive s := by
  induction s using normaliseLineEnds.induct with
  | case1 => exact nil
  | case2 s ih => exact both s ih
  | case3 s noFeed ih =>
    refine alone s (fun feed => ?_) ih
    obtain ⟨t, rfl⟩ := List.head?_eq_some_iff.1 feed
    exact noFeed t rfl
  | case4 c s _ other ih => exact cons c s other ih

/-! ## Scanners -/

/-- A literal on one line is recognised where it was. -/
theorem after?_normaliseLineEnds {lit : Text} (oneLine : isOneLine lit = true) (s : Text) :
    after? lit (normaliseLineEnds s) = (after? lit s).map normaliseLineEnds := by
  induction lit generalizing s with
  | nil => rfl
  | cons c lit ih =>
    simp only [isOneLine_cons, Bool.and_eq_true, decide_eq_true_eq] at oneLine
    obtain ⟨⟨noFeed, noReturn⟩, rest⟩ := oneLine
    cases s with
    | nil => rfl
    | cons d s =>
      by_cases ending : d = '\r'
      · subst ending
        obtain ⟨t, same⟩ := exists_normaliseLineEnds_return s
        simp [same, after?, noFeed, noReturn]
      · rw [normaliseLineEnds_cons ending]
        by_cases same : c = d
        · simp [after?, same, ih rest s]
        · simp [after?, same]

theorem dropOne_normaliseLineEnds (noFeed : c ≠ '\n') (noReturn : c ≠ '\r') (s : Text) :
    dropOne c (normaliseLineEnds s) = normaliseLineEnds (dropOne c s) := by
  cases s with
  | nil => rfl
  | cons d s =>
    by_cases ending : d = '\r'
    · subst ending
      obtain ⟨t, same⟩ := exists_normaliseLineEnds_return s
      simp [dropOne, same, noFeed.symm, noReturn.symm]
    · rw [normaliseLineEnds_cons ending]
      by_cases same : d = c
      · simp [dropOne, same]
      · simp [dropOne, same, normaliseLineEnds_cons ending]

section Runs

variable {p : Char → Bool}

/-- A run of one kind of characters is the run that was, where the kind has both line endings or
    none. -/
theorem takeWhile_normaliseLineEnds (both : p '\r' = p '\n') (s : Text) :
    (normaliseLineEnds s).takeWhile p = normaliseLineEnds (s.takeWhile p) := by
  induction s using lineEnds_induction with
  | nil => rfl
  | both s ih =>
    cases kind : p '\n' with
    | true => simp [normaliseLineEnds, both, kind, ih]
    | false => simp [normaliseLineEnds, both, kind]
  | alone s noFeed ih =>
    rw [normaliseLineEnds_return noFeed]
    cases kind : p '\n' with
    | true =>
      have inside : (s.takeWhile p).head? ≠ some '\n' := by
        cases s with
        | nil => simp
        | cons d s => cases here : p d <;> simp_all
      simp [both, kind, ih, normaliseLineEnds_return inside]
    | false => simp [both, kind, normaliseLineEnds]
  | cons c s other ih =>
    rw [normaliseLineEnds_cons other]
    cases kind : p c with
    | true => simp [kind, ih, normaliseLineEnds_cons other]
    | false => simp [kind, normaliseLineEnds]

/-- What follows a run of one kind of characters is what followed it. -/
theorem dropWhile_normaliseLineEnds (both : p '\r' = p '\n') (s : Text) :
    (normaliseLineEnds s).dropWhile p = normaliseLineEnds (s.dropWhile p) := by
  induction s using lineEnds_induction with
  | nil => rfl
  | both s ih =>
    cases kind : p '\n' with
    | true => simp [normaliseLineEnds, both, kind, ih]
    | false => simp [normaliseLineEnds, both, kind]
  | alone s noFeed ih =>
    cases kind : p '\n' with
    | true => simp [normaliseLineEnds_return noFeed, both, kind, ih]
    | false => simp [normaliseLineEnds_return noFeed, both, kind]
  | cons c s other ih =>
    rw [normaliseLineEnds_cons other]
    cases kind : p c with
    | true => simp [kind, ih]
    | false => simp [kind, normaliseLineEnds_cons other]

theorem span_normaliseLineEnds (both : p '\r' = p '\n') (s : Text) :
    (normaliseLineEnds s).span p =
      (normaliseLineEnds (s.span p).1, normaliseLineEnds (s.span p).2) := by
  simp only [List.span_eq_takeWhile_dropWhile, takeWhile_normaliseLineEnds both,
    dropWhile_normaliseLineEnds both]

theorem dropBlanks_normaliseLineEnds (s : Text) :
    dropBlanks (normaliseLineEnds s) = normaliseLineEnds (dropBlanks s) :=
  dropWhile_normaliseLineEnds (by decide) s

end Runs

theorem normaliseLineEnds_eq_nil_iff : normaliseLineEnds s = [] ↔ s = [] := by
  induction s using lineEnds_induction with
  | nil => simp [normaliseLineEnds]
  | both s => simp [normaliseLineEnds]
  | alone s noFeed => simp [normaliseLineEnds_return noFeed]
  | cons c s other => simp [normaliseLineEnds_cons other]

/-- A search finds what it found, where its recogniser does not tell the line endings apart. -/
theorem search_normaliseLineEnds {α : Type} {recognise : Text → Option α} {read : α → α}
    (same : ∀ s, recognise (normaliseLineEnds s) = (recognise s).map read)
    (before before' : Option Char) (s : Text) :
    search (fun _ s => recognise s) before (normaliseLineEnds s) =
      (search (fun _ s => recognise s) before' s).map (Prod.map normaliseLineEnds read) := by
  induction s using lineEnds_induction generalizing before before' with
  | nil =>
    have here := same []
    simp only [normaliseLineEnds] at here
    simp only [normaliseLineEnds, search]
    cases found : recognise [] with
    | none => rfl
    | some a => rw [found] at here; simpa [normaliseLineEnds] using here
  | both s ih =>
    have here := same ('\r' :: '\n' :: s)
    have next := same ('\n' :: s)
    rw [normaliseLineEnds_cons (by decide)] at next
    simp only [normaliseLineEnds, search] at here ⊢
    cases found : recognise ('\r' :: '\n' :: s) with
    | some a => simp [here, found, normaliseLineEnds]
    | none =>
      -- the place between the two characters is read like the one before them
      rw [found] at here
      rw [here] at next
      rw [Option.map_eq_none_iff.1 next.symm, here]
      simp [ih (some '\n') (some '\n'), Function.comp_def, normaliseLineEnds]
  | alone s noFeed ih =>
    have here := same ('\r' :: s)
    rw [normaliseLineEnds_return noFeed] at here ⊢
    simp only [search]
    cases found : recognise ('\r' :: s) with
    | some a => simp [here, found, normaliseLineEnds]
    | none =>
      simp only [here, found, ih (some '\n') (some '\r'), Option.map_map, Option.map_none]
      refine Option.map_congr fun found later => ?_
      obtain ⟨rest, cut, -⟩ := recognise_of_search later
      have inside : found.1.head? ≠ some '\n' := by
        rw [cut] at noFeed
        cases front : found.1 <;> simp_all
      simp [normaliseLineEnds_return inside]
  | cons c s other ih =>
    have here := same (c :: s)
    rw [normaliseLineEnds_cons other] at here ⊢
    simp only [search]
    cases found : recognise (c :: s) with
    | some a => simp [here, found, normaliseLineEnds]
    | none =>
      simp only [here, found, ih (some c) (some c), Option.map_map, Option.map_none]
      refine Option.map_congr fun _ _ => ?_
      simp [normaliseLineEnds_cons other]

end Groundwork.Text
