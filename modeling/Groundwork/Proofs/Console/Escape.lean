import Groundwork.Console.Notice
import Groundwork.Generator.Report
import Groundwork.Proofs.Text.Span

/-!
# Escaped text shows

Escaped text has no tags, whatever stands in it and wherever it stands (`tagless_escape`), so a
notice of a file action shows for every path, in a dry run as otherwise (`render_action`).
-/

namespace Groundwork.Console

open Text

/-- The parts of markup are ordinary text. -/
def Untagged (pieces : List Piece) : Prop := ∀ piece ∈ pieces, ∃ text, piece = .plain text

theorem untagged_plainPiece (text : Text) : Untagged (plainPiece text) := by
  unfold plainPiece
  split
  · simp [Untagged]
  · simp [Untagged]

theorem Untagged.append {first second : List Piece} (one : Untagged first)
    (other : Untagged second) : Untagged (first ++ second) :=
  fun piece member => (List.mem_append.1 member).elim (one piece) (other piece)

/-- Ordinary text shows. -/
theorem showPieces_of_untagged {pieces : List Piece} (untagged : Untagged pieces)
    (openTags : List Tag) : ∃ text, showPieces openTags pieces = .ok text := by
  induction pieces with
  | nil => exact ⟨[], rfl⟩
  | cons piece pieces ih =>
    obtain ⟨text, rfl⟩ := untagged piece (by simp)
    obtain ⟨rest, shows⟩ := ih fun other member => untagged other (List.mem_cons_of_mem _ member)
    refine ⟨withEmojis text ++ rest, ?_⟩
    simp [showPieces, shows, bind, Except.bind, pure, Except.pure]

/-! ## Tags -/

/-- A character that is no bracket. -/
def isNoBracket (c : Char) : Bool := c ≠ ']' && c ≠ '['

/-- A tag begins with a small letter or a mark and reaches to the next bracket, which closes it. -/
theorem tagInside?_eq_some_iff {s inside : Text} :
    tagInside? s = some inside ↔ ∃ c u v, inside = c :: u ∧
      (c.isLower || c = '#' || c = '/' || c = '@') = true ∧ u.all isNoBracket = true ∧
        s = c :: (u ++ ']' :: v) := by
  constructor
  · intro found
    cases s with
    | nil => cases found
    | cons c s =>
      simp only [tagInside?] at found
      split at found
      · next begins =>
        split at found
        · next u v cut =>
          obtain ⟨rfl, all, -⟩ := span_eq_iff.1 cut
          exact ⟨c, u, v, (Option.some.inj found).symm, begins, all, rfl⟩
        · cases found
      · cases found
  · rintro ⟨c, u, v, rfl, begins, all, rfl⟩
    have cut : (u ++ ']' :: v).span (fun c => c ≠ ']' && c ≠ '[') = (u, ']' :: v) :=
      span_eq_iff.2 ⟨rfl, all, by simp⟩
    simp only [tagInside?]
    rw [if_pos begins, cut]
    rfl

/-- A tag begins with no bracket and no backslash. -/
theorem isNoBracket_of_begins {c : Char}
    (begins : (c.isLower || c = '#' || c = '/' || c = '@') = true) : isNoBracket c = true := by
  unfold isNoBracket
  simp only [Bool.and_eq_true, decide_eq_true_eq]
  constructor
  · rintro rfl
    revert begins
    decide
  · rintro rfl
    revert begins
    decide

theorem all_isNoBracket_of_begins {c : Char} {u : Text}
    (begins : (c.isLower || c = '#' || c = '/' || c = '@') = true)
    (noBracket : u.all isNoBracket = true) : (c :: u).all isNoBracket = true := by
  rw [List.all_cons, isNoBracket_of_begins begins, noBracket, Bool.and_self]

theorem backslashes_add (n m : Nat) : backslashes (n + m) = backslashes n ++ backslashes m :=
  (List.replicate_append_replicate ..).symm

theorem backslashes_succ (n : Nat) (s : Text) :
    backslashes (n + 1) ++ s = backslashes n ++ '\\' :: s := by
  rw [backslashes_add, List.append_assoc]
  rfl

theorem all_backslashes (n : Nat) : (backslashes n).all isNoBracket = true := by
  rw [List.all_eq_true]
  intro c member
  rw [(List.mem_replicate.1 member).2]
  rfl

theorem not_mem_backslashes {d : Char} (other : d ≠ '\\') (n : Nat) : d ∉ backslashes n :=
  fun member => other (List.mem_replicate.1 member).2

/-- Text without brackets is left as it is before a closing bracket. -/
theorem escapeTags_closing (pending : Nat) {u : Text} (noBracket : u.all isNoBracket = true)
    (v : Text) :
    escapeTags pending (u ++ ']' :: v) = backslashes pending ++ (u ++ ']' :: escapeTags 0 v) := by
  induction u generalizing pending with
  | nil => simp [escapeTags]
  | cons c u ih =>
    obtain ⟨notBracket, others⟩ : isNoBracket c = true ∧ u.all isNoBracket = true := by
      simpa using noBracket
    have notOpening : c ≠ '[' := by
      rintro rfl
      exact absurd notBracket (by decide)
    rw [List.cons_append, escapeTags]
    by_cases backslash : c = '\\'
    · subst backslash
      rw [if_pos rfl, ih (pending + 1) others, backslashes_succ]
      rfl
    · rw [if_neg backslash, if_neg (by simp [notOpening]), ih 0 others]
      rfl

/-- Escaping puts no closing bracket where the text has none. -/
theorem closing_of_escapeTags {pending m : Nat} {s w v : Text}
    (noBracket : w.all isNoBracket = true)
    (same : escapeTags pending s ++ backslashes m = w ++ ']' :: v) :
    ∃ v', backslashes pending ++ s = w ++ ']' :: v' := by
  induction s generalizing pending w with
  | nil =>
    rw [escapeTags, ← backslashes_add] at same
    exact absurd (same ▸ by simp) (not_mem_backslashes (d := ']') (by decide) (pending + m))
  | cons c s ih =>
    rw [escapeTags] at same
    by_cases backslash : c = '\\'
    · subst backslash
      rw [if_pos rfl] at same
      obtain ⟨v', cut⟩ := ih noBracket same
      exact ⟨v', by rw [← cut, backslashes_succ]⟩
    rw [if_neg backslash] at same
    by_cases opening : c = '['
    · subst opening
      have apart (n : Nat) (t : Text) : backslashes n ++ '[' :: t ≠ w ++ ']' :: v := by
        intro equal
        have ends := run_unique equal (all_backslashes n) (by simp [isNoBracket]) noBracket
          (by simp [isNoBracket])
        exact absurd (List.cons.inj ends.2).1 (by decide)
      split at same
      · rw [List.append_assoc] at same
        exact absurd same (apart _ _)
      · rw [List.append_assoc] at same
        exact absurd same (apart _ _)
    rw [if_neg (by simp [opening]), List.append_assoc, List.cons_append] at same
    by_cases closing : c = ']'
    · subst closing
      have ends := run_unique same (all_backslashes pending) (by simp [isNoBracket]) noBracket
        (by simp [isNoBracket])
      exact ⟨s, by rw [ends.1]⟩
    · have absent : ']' ∉ backslashes pending ++ [c] := by
        simp [not_mem_backslashes, Ne.symm closing]
      have split : w ++ ']' :: v =
          (backslashes pending ++ [c]) ++ (escapeTags 0 s ++ backslashes m) := by
        simp [← same]
      obtain ⟨y, rfl, rest⟩ := cut_before absent split
      have others : y.all isNoBracket = true := by
        rw [List.all_append, Bool.and_eq_true] at noBracket
        exact noBracket.2
      obtain ⟨v', cut⟩ := ih others rest
      rw [backslashes, List.replicate_zero, List.nil_append] at cut
      exact ⟨v', by simp [cut]⟩

/-! ## Parts of escaped text -/

theorem piecesFrom_backslashes (position : Nat) (before : Text) (pending n : Nat) (s : Text) :
    piecesFrom position before pending 0 (backslashes n ++ s) =
      piecesFrom (position + n) before (pending + n) 0 s := by
  induction n generalizing position pending with
  | zero => rfl
  | succ n ih =>
    have step : piecesFrom position before pending 0 (backslashes (n + 1) ++ s) =
        piecesFrom (position + 1) before (pending + 1) 0 (backslashes n ++ s) := rfl
    rw [step, ih, Nat.add_assoc, Nat.add_assoc, Nat.add_comm 1 n]

theorem piecesFrom_skip (position : Nat) (x s : Text) :
    piecesFrom position [] 0 x.length (x ++ s) = piecesFrom (position + x.length) [] 0 0 s := by
  induction x generalizing position with
  | nil => rfl
  | cons c x ih =>
    have step : piecesFrom position [] 0 (c :: x).length (c :: x ++ s) =
        piecesFrom (position + 1) [] 0 x.length (x ++ s) := rfl
    rw [step, ih, List.length_cons, Nat.add_assoc, Nat.add_comm 1]

/-- A tag that an odd number of backslashes precedes is ordinary text. -/
theorem piecesFrom_escapedTag (position k : Nat) (before : Text) {inside : Text} (s : Text)
    (found : tagInside? (inside ++ ']' :: s) = some inside) :
    piecesFrom position before 0 0 (backslashes (2 * k + 1) ++ '[' :: (inside ++ ']' :: s)) =
      plainPiece before.reverse ++ plainPiece (backslashes k) ++ .plain ('[' :: inside ++ "]") ::
        piecesFrom (position + (2 * k + 1) + 1 + (inside.length + 1)) [] 0 0 s := by
  have odd : (0 + (2 * k + 1)) % 2 = 1 := by omega
  have half : (0 + (2 * k + 1)) / 2 = k := by omega
  have skip := piecesFrom_skip (position + (2 * k + 1) + 1) (inside ++ "]") s
  rw [List.append_assoc, List.length_append] at skip
  rw [piecesFrom_backslashes, piecesFrom, if_neg (Nat.lt_irrefl 0), if_neg (by decide),
    if_neg (by decide), found]
  simp only [odd, if_true, half]
  exact congrArg _ (congrArg _ skip)

/-- Escaping puts no tag where the text has none. -/
theorem tagInside?_escapeTags_of_none {s : Text} (m : Nat) (noTag : tagInside? s = none) :
    tagInside? (escapeTags 0 s ++ backslashes m) = none := by
  rw [Option.eq_none_iff_forall_ne_some]
  intro inside tag
  obtain ⟨d, u, v, rfl, begins, noBracket, same⟩ := tagInside?_eq_some_iff.1 tag
  obtain ⟨v', cut⟩ := closing_of_escapeTags (all_isNoBracket_of_begins begins noBracket) same
  rw [backslashes, List.replicate_zero, List.nil_append] at cut
  rw [tagInside?_eq_some_iff.2 ⟨d, u, v', rfl, begins, noBracket, cut⟩] at noTag
  cases noTag

/-- Escaped text has no tags. -/
theorem untagged_escapeTags (k m position : Nat) (before : Text) (s : Text) :
    Untagged (piecesFrom position before 0 0 (escapeTags k s ++ backslashes m)) := by
  match s with
  | [] =>
    rw [escapeTags, ← backslashes_add, ← List.append_nil (backslashes _), piecesFrom_backslashes]
    exact untagged_plainPiece _
  | c :: s =>
    rw [escapeTags]
    by_cases backslash : c = '\\'
    · rw [if_pos backslash]
      exact untagged_escapeTags (k + 1) m position before s
    rw [if_neg backslash]
    by_cases opening : c = '['
    · subst opening
      cases found : tagInside? s with
      | some inside =>
        obtain ⟨d, u, v, rfl, begins, noBracket, rfl⟩ := tagInside?_eq_some_iff.1 found
        have closed : escapeTags 0 (d :: u ++ ']' :: v) = d :: u ++ ']' :: escapeTags 0 v :=
          escapeTags_closing 0 (all_isNoBracket_of_begins begins noBracket) v
        have tag : tagInside? (d :: u ++ ']' :: (escapeTags 0 v ++ backslashes m)) =
            some (d :: u) :=
          tagInside?_eq_some_iff.2 ⟨d, u, _, rfl, begins, noBracket, rfl⟩
        have shorter : v.length < ('[' :: (d :: (u ++ ']' :: v))).length := by simp; omega
        have parts := piecesFrom_escapedTag position k before _ tag
        rw [if_pos (by simp), ← List.cons_append, closed]
        simp only [List.append_assoc, List.cons_append] at parts ⊢
        rw [parts, ← List.append_assoc]
        refine ((untagged_plainPiece _).append (untagged_plainPiece _)).append ?_
        intro piece member
        rcases List.mem_cons.1 member with rfl | member
        · exact ⟨_, rfl⟩
        · exact untagged_escapeTags 0 m _ _ v piece member
      | none =>
        rw [if_neg (by simp), List.append_assoc, piecesFrom_backslashes, List.cons_append,
          piecesFrom, if_neg (Nat.lt_irrefl 0), if_neg backslash, if_neg (by decide),
          tagInside?_escapeTags_of_none m found]
        exact untagged_escapeTags 0 m _ _ s
    · rw [if_neg (by simp [opening]), List.append_assoc, piecesFrom_backslashes, List.cons_append,
        piecesFrom, if_neg (Nat.lt_irrefl 0), if_neg backslash, if_pos opening]
      exact untagged_escapeTags 0 m _ _ s
termination_by s.length

/-! ## Notices of actions -/

/-- Text without opening brackets and backslashes stands before what follows it. -/
theorem piecesFrom_append (position : Nat) (before : Text) {u : Text} (noBracket : '[' ∉ u)
    (noBackslash : '\\' ∉ u) (s : Text) :
    piecesFrom position before 0 0 (u ++ s) =
      piecesFrom (position + u.length) (u.reverse ++ before) 0 0 s := by
  induction u generalizing position before with
  | nil => rfl
  | cons c u ih =>
    rw [List.mem_cons, not_or] at noBracket noBackslash
    rw [List.cons_append, piecesFrom, if_neg (Nat.lt_irrefl 0), if_neg (Ne.symm noBackslash.1),
      if_pos (Ne.symm noBracket.1)]
    refine (ih _ _ noBracket.2 noBackslash.2).trans ?_
    simp [backslashes, Nat.add_assoc, Nat.add_comm 1]

/-- What is escaped has its last backslash doubled at most. -/
theorem escape_eq (s : Text) : ∃ m, escape s = escapeTags 0 s ++ backslashes m := by
  unfold escape
  dsimp only
  split
  · exact ⟨1, rfl⟩
  · exact ⟨0, by simp [backslashes]⟩

/-- The text has no tags, wherever it stands. -/
def Tagless (s : Text) : Prop := ∀ position before, Untagged (piecesFrom position before 0 0 s)

theorem tagless_escape (s : Text) : Tagless (escape s) := by
  intro position before
  obtain ⟨m, escaped⟩ := escape_eq s
  rw [escaped]
  exact untagged_escapeTags 0 m position before s

/-- Text without brackets and backslashes may stand before text without tags. -/
theorem Tagless.after {u s : Text} (tagless : Tagless s) (noBracket : '[' ∉ u)
    (noBackslash : '\\' ∉ u) : Tagless (u ++ s) := by
  intro position before
  rw [piecesFrom_append position before noBracket noBackslash]
  exact tagless _ _

theorem tagless_nil : Tagless [] := fun _ before => untagged_plainPiece (before.reverse ++ [])

/-- The mark of a dry run is an escaped tag. -/
theorem Tagless.marked {s : Text} (tagless : Tagless s) (dryRun : Bool) :
    Tagless (Notice.dryRunMark dryRun ++ s) := by
  cases dryRun with
  | false => exact tagless
  | true =>
    intro position before
    have found : tagInside? ("dry-run".toList ++ ']' :: (' ' :: s)) = some "dry-run".toList :=
      tagInside?_eq_some_iff.2 ⟨'d', "ry-run".toList, ' ' :: s, rfl, by decide, by decide, rfl⟩
    have parts := piecesFrom_escapedTag position 0 before (' ' :: s) found
    have split : Notice.dryRunMark true ++ s =
        backslashes (2 * 0 + 1) ++ '[' :: ("dry-run".toList ++ ']' :: (' ' :: s)) := rfl
    rw [split, parts]
    refine ((untagged_plainPiece _).append (untagged_plainPiece _)).append ?_
    intro piece member
    rcases List.mem_cons.1 member with rfl | member
    · exact ⟨_, rfl⟩
    · exact tagless.after (u := [' ']) (by decide) (by decide) _ _ piece member

theorem Tagless.print {s : Text} (tagless : Tagless s) : ∃ text, print s = .ok text := by
  obtain ⟨text, shows⟩ := showPieces_of_untagged (tagless 0 []) []
  refine ⟨Text.lines (layOut .fold consoleWidth (text.filter fun c => !isDropped c)), ?_⟩
  unfold Console.print shown pieces
  rw [shows]
  rfl

/-- A file action shows for every path, given that its label is no markup. -/
theorem action_shows (dryRun : Bool) (label : Text) (noBracket : '[' ∉ label)
    (noBackslash : '\\' ∉ label) (path : Text) :
    ∃ text, (Notice.action dryRun label path).render = .ok text := by
  have tagless : Tagless (Text.padLeft Notice.labelWidth label ++ "  " ++ escape path) := by
    unfold Text.padLeft
    exact (tagless_escape path).after (by simp [noBracket]) (by simp [noBackslash])
  have rendered : (Notice.action dryRun label path).render = Console.print
      (Notice.dryRunMark dryRun ++
        (Text.padLeft Notice.labelWidth label ++ "  " ++ escape path)) := by
    simp only [Notice.render, List.append_assoc]
  rw [rendered]
  exact (tagless.marked dryRun).print

/-- The notice of an action on a file shows for every path. -/
theorem render_action (dryRun : Bool) (action : FileAction) (path : Text) :
    ∃ text, (Notice.action dryRun action.word path).render = .ok text := by
  refine action_shows dryRun action.word ?_ ?_ path
  · cases action <;> decide
  · cases action <;> decide

end Groundwork.Console
