import Groundwork.Proofs.Text.Span

/-!
# Reading a text by its lines

A reader that looks at one line at a time reads a longer text line by line (`byLine`). So what it
reads from a generated text is put together from what it reads from the text's parts, wherever these
are set apart by line feeds (`byLine_intercalate`, `byLine_lines`). Two readers of a line are given:
the property that it declares (`property?`) and what it quotes (`quotations`).
-/

namespace Groundwork.Text

variable {α : Type} {read : Text → List α} {s t : Text}

/-- What a reader takes from the lines of a text, in order. -/
def byLine (read : Text → List α) (s : Text) : List α := (split '\n' s).flatMap read

theorem byLine_append_feed (read : Text → List α) (s t : Text) :
    byLine read (s ++ '\n' :: t) = byLine read s ++ byLine read t := by
  unfold byLine
  rw [split_append, List.flatMap_append]

theorem byLine_of_not_mem (noFeed : '\n' ∉ s) : byLine read s = read s := by
  unfold byLine
  rw [split_of_not_mem noFeed]
  simp

theorem byLine_intercalate (read : Text → List α) {pieces : List Text} (nonempty : pieces ≠ []) :
    byLine read (List.intercalate ['\n'] pieces) = pieces.flatMap (byLine read) := by
  induction pieces with
  | nil => exact absurd rfl nonempty
  | cons piece pieces ih =>
    cases pieces with
    | nil => simp
    | cons next pieces =>
      rw [List.intercalate_cons_cons, List.append_assoc, List.singleton_append,
        byLine_append_feed, ih (by simp)]
      rfl

/-- After the last line feed of a text of lines an empty line is read. -/
theorem byLine_lines (read : Text → List α) (ls : List Text) :
    byLine read (lines ls) = ls.flatMap (byLine read) ++ read [] := by
  induction ls with
  | nil => rw [show lines [] = [] from rfl, byLine_of_not_mem (by simp)]; rfl
  | cons l ls ih =>
    rw [show lines (l :: ls) = l ++ '\n' :: lines ls by simp [lines], byLine_append_feed, ih,
      List.flatMap_cons, List.append_assoc]

/-- Paragraphs are set apart by an empty line. -/
theorem byLine_paragraphs (empty : read [] = []) (pieces : List Text) :
    byLine read (List.intercalate "\n\n" pieces) = pieces.flatMap (byLine read) := by
  induction pieces with
  | nil => exact (byLine_of_not_mem List.not_mem_nil).trans empty
  | cons piece pieces ih =>
    cases pieces with
    | nil => simp
    | cons next pieces =>
      rw [List.intercalate_cons_cons, List.append_assoc,
        show ("\n\n" : Text) ++ List.intercalate "\n\n" (next :: pieces) =
          '\n' :: ([] ++ '\n' :: List.intercalate "\n\n" (next :: pieces)) from rfl,
        byLine_append_feed, byLine_append_feed, ih, byLine_of_not_mem List.not_mem_nil, empty]
      rfl

/-! ## Lines of a text -/

theorem byLine_singleton (s : Text) : byLine (fun line => [line]) s = split '\n' s := by
  unfold byLine
  simp

theorem split_lines (ls : List Text) :
    split '\n' (lines ls) = ls.flatMap (split '\n') ++ [[]] := by
  rw [← byLine_singleton, byLine_lines]
  exact congrArg (· ++ [[]]) (List.flatMap_congr fun l _ => byLine_singleton l)

theorem flatMap_split {pieces : List Text} (noFeed : ∀ piece ∈ pieces, '\n' ∉ piece) :
    pieces.flatMap (split '\n') = pieces := by
  rw [List.flatMap_congr fun piece member => split_of_not_mem (noFeed piece member)]
  simp

/-! ## Silent texts -/

/-- Nothing is read from a text without a character that every line needs. -/
theorem byLine_eq_nil {c : Char} (needed : ∀ line, c ∉ line → read line = []) (absent : c ∉ s) :
    byLine read s = [] := by
  unfold byLine
  rw [List.flatMap_eq_nil_iff]
  intro line member
  exact needed line fun inside => absent (subset_of_mem_split '\n' member inside)

/-- Only the first line of a text is read, if what follows it lacks a character that every line
    needs. -/
theorem byLine_append_of_silent {c : Char} {found : List α}
    (needed : ∀ line, c ∉ line → read line = []) (absent : c ∉ t) (noFeed : '\n' ∉ s)
    (first : ∀ e, e <+: t → read (s ++ e) = found) : byLine read (s ++ t) = found := by
  by_cases feed : '\n' ∈ t
  · obtain ⟨a, b, rfl, before⟩ := List.eq_append_cons_of_mem feed
    have later : byLine read b = [] := byLine_eq_nil needed fun inside => absent (by simp [inside])
    rw [← List.append_assoc, byLine_append_feed, later, List.append_nil,
      byLine_of_not_mem (by simp [noFeed, before])]
    exact first a (List.prefix_append a _)
  · rw [byLine_of_not_mem (by simp [noFeed, feed])]
    exact first t (List.prefix_refl t)

/-- Only the last line of a text is read, if what precedes it lacks a character that every line
    needs. -/
theorem byLine_append_of_silent_front {c : Char} {found : List α}
    (needed : ∀ line, c ∉ line → read line = []) (absent : c ∉ s) (noFeed : '\n' ∉ t)
    (last : ∀ e, e <:+ s → read (e ++ t) = found) : byLine read (s ++ t) = found := by
  by_cases feed : '\n' ∈ s
  · obtain ⟨a, b, cut, after⟩ := List.eq_append_cons_of_mem (List.mem_reverse.2 feed)
    obtain rfl : s = b.reverse ++ '\n' :: a.reverse := by
      simpa using congrArg List.reverse cut
    have earlier : byLine read b.reverse = [] :=
      byLine_eq_nil needed fun inside => absent (List.mem_append_left _ inside)
    rw [List.append_assoc, List.cons_append, byLine_append_feed, earlier, List.nil_append,
      byLine_of_not_mem (by simp [noFeed, after])]
    exact last a.reverse ((List.suffix_cons _ _).trans (List.suffix_append _ _))
  · rw [byLine_of_not_mem (by simp [noFeed, feed])]
    exact last s List.suffix_rfl

/-! ## Properties -/

/-- The property that a line declares after an indentation, and what follows its name. -/
def property? (indent line : Text) : Option (Text × Text) := do
  let s ← after? indent line
  let (name, s) := s.span isWord
  let value ← after? ": " s
  if name.isEmpty then none else some (name, value)

theorem property?_append {name : Text} (letters : name.all isWord = true) (nonempty : name ≠ [])
    (indent value : Text) :
    property? indent (indent ++ (name ++ (": " ++ value))) = some (name, value) := by
  have run : (name ++ (": " ++ value)).span isWord = (name, ": " ++ value) :=
    span_eq_iff.2 ⟨rfl, letters, (stops_cons _ _ _).2 (by decide)⟩
  unfold property?
  simp only [Option.bind_eq_bind, after?_eq_some_iff.2 rfl, Option.bind_some, run]
  simp [nonempty]

/-- A line without a colon declares no property. -/
theorem property?_of_not_mem {indent line : Text} (noColon : ':' ∉ line) :
    property? indent line = none := by
  rw [Option.eq_none_iff_forall_ne_some]
  intro found declared
  unfold property? at declared
  simp only [Option.bind_eq_bind, Option.bind_eq_some_iff, after?_eq_some_iff] at declared
  obtain ⟨s, rfl, value, colon, -⟩ := declared
  have run := span_eq_iff.1 (Prod.eta (s.span isWord)).symm
  rw [run.1, colon] at noColon
  simp at noColon

/-! ## Quotations -/

/-- The pieces of a text between its quotation marks: every second piece is quoted, if a mark
    follows it. -/
def quotedPieces : List Text → List (Text × Text)
  | before :: quoted :: after :: pieces => (before, quoted) :: quotedPieces (after :: pieces)
  | _ => []

/-- What a line has between double quotes, each with the text before it. -/
def quotations (line : Text) : List (Text × Text) := quotedPieces (split '"' line)

theorem quotations_of_not_mem (noQuote : '"' ∉ s) : quotations s = [] := by
  unfold quotations
  rw [split_of_not_mem noQuote]
  rfl

theorem quotations_append (before quoted rest : Text) (outside : '"' ∉ before)
    (inside : '"' ∉ quoted) :
    quotations (before ++ '"' :: (quoted ++ '"' :: rest)) =
      (before, quoted) :: quotations rest := by
  obtain ⟨piece, pieces, cut⟩ := List.exists_cons_of_ne_nil (split_ne_nil '"' rest)
  unfold quotations
  rw [split_append, split_append, split_of_not_mem outside, split_of_not_mem inside, cut]
  rfl

/-- A text ends in none of the literals that its own end tells apart. -/
theorem not_endsWith_append {lit t : Text} (s : Text) (apart : ¬ t <:+ lit ∧ ¬ lit <:+ t) :
    endsWith lit (s ++ t) = false := by
  rw [Bool.eq_false_iff, Ne, endsWith_iff]
  intro ends
  rcases List.suffix_or_suffix_of_suffix ends (List.suffix_append s t) with longer | shorter
  · exact apart.2 longer
  · exact apart.1 shorter

end Groundwork.Text
