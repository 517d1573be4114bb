import Groundwork.Json.Comment
import Groundwork.Proofs.Json.Lexing

/-!
# JSON with comments

Comments may stand wherever blanks may, between the lexemes of a document (`Commented`). The first
of the two passes that strip a text takes them out and keeps the texts between quotation marks
(`loose_stripComments`): a comment's marks in a text begin no comment, and a quotation mark in a
comment opens no text.
-/

namespace Groundwork.Json

variable {lexemes : List Lexeme} {g s t : Text} {c : Char}

/-! ## Comments between lexemes -/

/-- What may stand before a lexeme: blanks, comments that end with their line, and comments between
    marks. -/
inductive Gap : Text → Prop
  | nil : Gap []
  | blank {c : Char} {s : Text} (blank : isBlank c = true) (rest : Gap s) : Gap (c :: s)
  | line (note : Text) {s : Text} (oneLine : '\n' ∉ note) (rest : Gap s) :
      Gap ('/' :: '/' :: (note ++ '\n' :: s))
  | block (note : Text) {s : Text} (inside : ¬ ['*', '/'] <:+: note) (rest : Gap s) :
      Gap ('/' :: '*' :: (note ++ '*' :: '/' :: s))

/-- What may stand after the last lexeme: here the text may end within a line's comment. -/
inductive LastGap : Text → Prop
  | closed {s : Text} (gap : Gap s) : LastGap s
  | line {g : Text} (note : Text) (gap : Gap g) (oneLine : '\n' ∉ note) :
      LastGap (g ++ '/' :: '/' :: note)

/-- A layout with comments, and with single commas after last items. -/
abbrev Commented : List Lexeme → Text → Prop := Written Gap LastGap True

/-- A layout with nothing but blanks between the lexemes, and with single commas after last
    items. -/
abbrev Loose : List Lexeme → Text → Prop := Written IsBlanks IsBlanks True

theorem gap_of_blanks (blanks : IsBlanks s) : Gap s := by
  induction s with
  | nil => exact .nil
  | cons c s ih =>
    exact .blank (blanks c List.mem_cons_self)
      (ih fun d member => blanks d (List.mem_cons_of_mem c member))

/-- A plain layout is one with comments that has none. -/
theorem commented_of_plain (plain : Plain lexemes s) : Commented lexemes s := by
  induction plain with
  | done ends => exact .done (.closed (gap_of_blanks ends))
  | next before _ ih => exact .next (gap_of_blanks before) ih
  | lastComma allowed => exact allowed.elim

/-! ## Taking out comments -/

theorem outside_cons (noQuote : c ≠ '"') (noSlash : c ≠ '/') (s : Text) :
    stripCommentsFrom .outside (c :: s) = c :: stripCommentsFrom .outside s := by
  simp [stripCommentsFrom, noSlash]

theorem lineComment_append (oneLine : '\n' ∉ s) (t : Text) :
    stripCommentsFrom .lineComment (s ++ t) = stripCommentsFrom .lineComment t := by
  induction s with
  | nil => rfl
  | cons c s ih =>
    obtain ⟨noFeed, later⟩ := not_or.1 (List.mem_cons.not.1 oneLine)
    simp [stripCommentsFrom, Ne.symm noFeed, ih later]

/-- A comment between marks ends at the first closing mark. -/
theorem blockComment_append (inside : ¬ ['*', '/'] <:+: s) (t : Text) :
    closesComment (s ++ '*' :: '/' :: t) = true ∧
      stripCommentsFrom .blockComment (s ++ '*' :: '/' :: t) = stripCommentsFrom .outside t := by
  induction s with
  | nil => simp [closesComment, stripCommentsFrom]
  | cons c s ih =>
    obtain ⟨closes, stripped⟩ := ih fun later => inside (List.infix_cons later)
    by_cases star : c = '*'
    · subst star
      cases s with
      | nil => simp [closesComment, stripCommentsFrom]
      | cons d s =>
        have noSlash : d ≠ '/' := by
          rintro rfl
          exact inside ⟨[], s, rfl⟩
        rw [List.cons_append] at closes stripped
        simp [closesComment, stripCommentsFrom, noSlash, closes, stripped]
    · simp [closesComment, stripCommentsFrom, star, closes, stripped]

/-- Of what stands before a lexeme, blanks are left. -/
theorem outside_gap (gap : Gap g) (s : Text) : ∃ blanks, IsBlanks blanks ∧
    stripCommentsFrom .outside (g ++ s) = blanks ++ stripCommentsFrom .outside s := by
  induction gap with
  | nil => exact ⟨[], nofun, rfl⟩
  | @blank c g blank _ ih =>
    obtain ⟨blanks, allBlank, stripped⟩ := ih
    have noQuote : c ≠ '"' := by
      rintro rfl
      cases blank
    have noSlash : c ≠ '/' := by
      rintro rfl
      cases blank
    refine ⟨c :: blanks, ?_, ?_⟩
    · intro d member
      rcases List.mem_cons.1 member with rfl | member
      · exact blank
      · exact allBlank d member
    · rw [List.cons_append, outside_cons noQuote noSlash, stripped]
      rfl
  | @line note g oneLine _ ih =>
    obtain ⟨blanks, allBlank, stripped⟩ := ih
    refine ⟨'\n' :: blanks, ?_, ?_⟩
    · intro d member
      rcases List.mem_cons.1 member with rfl | member
      · rfl
      · exact allBlank d member
    · have cut : '/' :: '/' :: (note ++ '\n' :: g) ++ s =
          '/' :: '/' :: (note ++ '\n' :: (g ++ s)) := by simp
      rw [cut]
      simp [stripCommentsFrom, lineComment_append oneLine, stripped]
  | @block note g inside _ ih =>
    obtain ⟨blanks, allBlank, stripped⟩ := ih
    obtain ⟨closes, ends⟩ := blockComment_append inside (g ++ s)
    refine ⟨blanks, allBlank, ?_⟩
    have cut : '/' :: '*' :: (note ++ '*' :: '/' :: g) ++ s =
        '/' :: '*' :: (note ++ '*' :: '/' :: (g ++ s)) := by simp
    rw [cut]
    simp [stripCommentsFrom, closes, ends, stripped]

theorem inText_piece (p : Piece) (s : Text) :
    closesText (p.source ++ s) = closesText s ∧
      stripCommentsFrom .inText (p.source ++ s) = p.source ++ stripCommentsFrom .inText s := by
  cases p with
  | plain c free =>
    unfold isPlain at free
    simp only [ne_eq, Bool.and_eq_true, decide_eq_true_eq] at free
    obtain ⟨⟨noQuote, noBackslash⟩, -⟩ := free
    simp [Piece.source, closesText, stripCommentsFrom, noQuote, noBackslash]
  | escape c known => simp [Piece.source, closesText, stripCommentsFrom]
  | unit a b c d hex =>
    simp only [List.all_cons, List.all_nil, Bool.and_true, Bool.and_eq_true] at hex
    obtain ⟨hexA, hexB, hexC, hexD⟩ := hex
    have other {x : Char} (hex : Decimal.isHexDigit x = true) : x ≠ '"' ∧ x ≠ '\\' := by
      constructor
      · rintro rfl
        cases hex
      · rintro rfl
        cases hex
    simp [Piece.source, closesText, stripCommentsFrom, other hexA, other hexB, other hexC,
      other hexD]

/-- A text is left as it is, up to its closing mark. -/
theorem inText_pieces (pieces : List Piece) (s : Text) :
    closesText (spelling pieces ++ '"' :: s) = true ∧
      stripCommentsFrom .inText (spelling pieces ++ '"' :: s) =
        spelling pieces ++ '"' :: stripCommentsFrom .outside s := by
  induction pieces with
  | nil => simp [spelling, closesText, stripCommentsFrom]
  | cons p pieces ih =>
    obtain ⟨closes, stripped⟩ := inText_piece p (spelling pieces ++ '"' :: s)
    have cut : spelling (p :: pieces) = p.source ++ spelling pieces := List.flatMap_cons
    rw [cut, List.append_assoc, closes, stripped, ih.1, ih.2]
    simp

theorem outside_word {letters : Text} (chars : letters.all isWordChar = true) (s : Text) :
    stripCommentsFrom .outside (letters ++ s) = letters ++ stripCommentsFrom .outside s := by
  induction letters with
  | nil => rfl
  | cons c letters ih =>
    rw [List.all_cons, Bool.and_eq_true] at chars
    obtain ⟨char, chars⟩ := chars
    have noQuote : c ≠ '"' := by
      rintro rfl
      cases char
    have noSlash : c ≠ '/' := by
      rintro rfl
      cases char
    rw [List.cons_append, outside_cons noQuote noSlash, ih chars]
    rfl

theorem outside_lexeme (l : Lexeme) (s : Text) :
    stripCommentsFrom .outside (l.source ++ s) = l.source ++ stripCommentsFrom .outside s := by
  cases l with
  | mark c known =>
    have noQuote : c ≠ '"' := by
      rintro rfl
      cases known
    have noSlash : c ≠ '/' := by
      rintro rfl
      cases known
    exact outside_cons noQuote noSlash s
  | word letters nonempty chars => exact outside_word chars s
  | text pieces =>
    obtain ⟨closes, stripped⟩ := inText_pieces pieces s
    simp [Lexeme.source, stripCommentsFrom, closes, stripped]

/-- Without its comments a layout has nothing but blanks between the lexemes. -/
theorem loose_stripComments (commented : Commented lexemes t) :
    Loose lexemes (stripComments t) := by
  unfold stripComments
  induction commented with
  | done ends =>
    cases ends with
    | closed gap =>
      obtain ⟨blanks, allBlank, stripped⟩ := outside_gap gap []
      rw [List.append_nil] at stripped
      rw [stripped]
      simpa [stripCommentsFrom] using Written.done allBlank
    | @line g note gap oneLine =>
      obtain ⟨blanks, allBlank, stripped⟩ := outside_gap gap ('/' :: '/' :: note)
      have ends := lineComment_append oneLine []
      rw [List.append_nil] at ends
      rw [stripped]
      simpa [stripCommentsFrom, ends] using Written.done allBlank
  | @next g s l lexemes before rest ih =>
    obtain ⟨blanks, allBlank, stripped⟩ := outside_gap before (l.source ++ s)
    rw [stripped, outside_lexeme]
    exact .next allBlank ih
  | @lastComma g g' s l lexemes allowed closes before behind rest ih =>
    obtain ⟨blanks, allBlank, stripped⟩ := outside_gap before (',' :: (g' ++ (l.source ++ s)))
    obtain ⟨blanks', allBlank', stripped'⟩ := outside_gap behind (l.source ++ s)
    rw [stripped, outside_cons (by decide) (by decide), stripped', outside_lexeme]
    exact .lastComma allowed closes allBlank allBlank' ih

end Groundwork.Json
