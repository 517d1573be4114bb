import Groundwork.Proofs.Json.Grammar
import Groundwork.Proofs.Json.Layout

/-!
# Lexemes of JSON documents

Every text that denotes a value is a plain layout of lexemes that may follow each other as they do
(`exists_document`). What is cut into tokens is cut into lexemes first (`exists_plain`): the marks
and the texts carry over, and a word that denotes a value has only the characters of such words
(`isWordChar_of_ofWord`).
-/

namespace Groundwork.Json

/-! ## Words -/

variable {letters s : Text} {v : Value}

theorem isWord_unsigned (negative : Bool) (s : Text) : (unsigned negative s).isWord = true := by
  unfold unsigned
  repeat' split
  all_goals rfl

theorem isWord_ofWord (letters : Text) : (ofWord letters).isWord = true := by
  unfold ofWord
  split_ifs
  all_goals first | rfl | skip
  split <;> exact isWord_unsigned _ _

theorem digits?_eq_some {digits behind : Text} (found : digits? s = some (digits, behind)) :
    s = digits ++ behind ∧ digits.all isWordChar = true := by
  unfold digits? at found
  split at found
  · cases found
  · obtain ⟨same, all, -⟩ := Text.span_eq_iff.1 (Option.some.inj found)
    refine ⟨same, List.all_eq_true.2 fun c member => ?_⟩
    have digit := List.all_eq_true.1 all c member
    simp [isWordChar, Char.isAlphanum, digit]

theorem isWordChar_of_exponent? {n : Int} (found : exponent? s = some n) :
    s.all isWordChar = true := by
  unfold exponent? at found
  split at found
  · rfl
  · next e s =>
    have signs (chars : (Decimal.takeSign s).2.all isWordChar = true) :
        s.all isWordChar = true := by
      unfold Decimal.takeSign at chars
      split at chars
      · rw [List.all_cons, chars]
        decide
      · rw [List.all_cons, chars]
        decide
      · exact chars
    dsimp only at found
    split at found
    · next digits read =>
      obtain ⟨same, chars⟩ := digits?_eq_some read
      rw [List.append_nil] at same
      split_ifs at found with isSign
      have letter : isWordChar e = true := by
        simp only [isExponentSign, Bool.or_eq_true, decide_eq_true_eq] at isSign
        rcases isSign with rfl | rfl <;> decide
      rw [List.all_cons, letter, signs (same ▸ chars)]
      rfl
    · cases found

theorem isWordChar_of_realOf? {negative : Bool} {digits : Text}
    (found : realOf? negative digits s = some v) : s.all isWordChar = true := by
  unfold realOf? at found
  split at found
  · simp only [Option.bind_eq_bind, Option.bind_eq_some_iff] at found
    obtain ⟨⟨fraction, behind⟩, read, exponent, found, -⟩ := found
    obtain ⟨rfl, chars⟩ := digits?_eq_some read
    rw [List.all_cons, List.all_append, chars, isWordChar_of_exponent? found]
    decide
  · simp only [Option.bind_eq_bind, Option.bind_eq_some_iff] at found
    obtain ⟨exponent, found, -⟩ := found
    exact isWordChar_of_exponent? found

theorem isWordChar_of_unsigned {negative : Bool} (read : unsigned negative s = .atom v) :
    s.all isWordChar = true := by
  unfold unsigned at read
  split at read
  · cases read
  · next digits behind found =>
    obtain ⟨rfl, chars⟩ := digits?_eq_some found
    rw [List.all_append, chars, Bool.true_and]
    split_ifs at read with zero real tooMany ends
    · split at read
      · next found => exact isWordChar_of_realOf? found
      · cases read
    · rw [List.isEmpty_iff.1 ends]
      rfl

/-- A word that denotes a value has only characters of such words. -/
theorem isWordChar_of_ofWord (read : ofWord letters = .atom v) : letters.all isWordChar = true := by
  unfold ofWord at read
  split_ifs at read with null true false real
  · rw [null]
    decide
  · rw [true]
    decide
  · rw [false]
    decide
  · simp only [Bool.or_eq_true, decide_eq_true_eq] at real
    rcases real with (rfl | rfl) | rfl <;> decide
  · split at read
    · rw [List.all_cons, isWordChar_of_unsigned read]
      decide
    · exact isWordChar_of_unsigned read

theorem isLeaf_fault (fault : Fault) : (Token.fault fault).IsLeaf := by
  rintro value ⟨⟩

theorem isLeaf_unsigned (negative : Bool) (s : Text) : (unsigned negative s).IsLeaf := by
  unfold unsigned
  split
  · exact isLeaf_fault _
  · split_ifs
    · exact isLeaf_fault _
    · split
      · next digits behind _ _ _ v found =>
        obtain ⟨whole, rfl⟩ : ∃ whole, v = .real whole := by
          unfold realOf? at found
          split at found <;> simp only [Option.bind_eq_bind, Option.bind_eq_some_iff] at found
          · obtain ⟨_, -, exponent, -, same⟩ := found
            exact ⟨_, (Option.some.inj same).symm⟩
          · obtain ⟨exponent, -, same⟩ := found
            exact ⟨_, (Option.some.inj same).symm⟩
        rintro _ ⟨⟩
        rfl
      · exact isLeaf_fault _
    · exact isLeaf_fault _
    · rintro _ ⟨⟩
      rfl
    · exact isLeaf_fault _

/-- No value of a word has parts. -/
theorem isLeaf_ofWord (letters : Text) : (ofWord letters).IsLeaf := by
  unfold ofWord
  split_ifs
  · rintro _ ⟨⟩
    rfl
  · rintro _ ⟨⟩
    rfl
  · rintro _ ⟨⟩
    rfl
  · rintro _ ⟨⟩
    rfl
  · split <;> exact isLeaf_unsigned _ _

/-! ## Lexemes of a document -/

theorem isLeaf_token (l : Lexeme) : l.token.IsLeaf := by
  cases l with
  | mark c known =>
    obtain rfl | rfl | rfl | rfl | rfl | rfl := mark_cases known <;> rintro value ⟨⟩
  | word letters => exact isLeaf_ofWord letters
  | text pieces =>
    rintro _ ⟨⟩
    simp only [textOfUnits, Value.ofCharacters]
    split_ifs <;> rfl

theorem plain_of_isWord {token : Token} (word : token.isWord = true) :
    token.isComma = false ∧ token.closes = false := by
  cases token <;> first | exact ⟨rfl, rfl⟩ | cases word

theorem isComma_token (l : Lexeme) : l.token.isComma = l.isComma := by
  cases l with
  | mark c known =>
    obtain rfl | rfl | rfl | rfl | rfl | rfl := mark_cases known <;> rfl
  | word letters => exact (plain_of_isWord (isWord_ofWord letters)).1
  | text pieces => rfl

theorem closes_token (l : Lexeme) : l.token.closes = l.closes := by
  cases l with
  | mark c known =>
    obtain rfl | rfl | rfl | rfl | rfl | rfl := mark_cases known <;> rfl
  | word letters => exact (plain_of_isWord (isWord_ofWord letters)).2
  | text pieces => rfl

theorem isWord_token (l : Lexeme) : l.token.isWord = l.isWord := by
  cases l with
  | mark c known =>
    obtain rfl | rfl | rfl | rfl | rfl | rfl := mark_cases known <;> rfl
  | word letters => exact isWord_ofWord letters
  | text pieces => rfl

theorem precedes_token_iff {l next : Lexeme} :
    l.token.Precedes next.token ↔ l.Precedes next := by
  unfold Token.Precedes Lexeme.Precedes
  rw [isComma_token, closes_token, isWord_token, isWord_token]

/-- Within a numbered unit only a hexadecimal digit leads on to tokens. -/
theorem exists_digit {units : List Nat} {missing n : Nat}
    (noFault : ∀ fault, Token.fault fault ∉ tokensFrom (.unit units missing n) s) :
    ∃ c behind, s = c :: behind ∧ Decimal.isHexDigit c = true ∧
      tokensFrom (.unit units missing n) s =
        if missing ≤ 1 then tokensFrom (.text ((n * 16 + Decimal.digitValue c) :: units)) behind
        else tokensFrom (.unit units (missing - 1) (n * 16 + Decimal.digitValue c)) behind := by
  cases s with
  | nil => exact absurd List.mem_cons_self (noFault .malformed)
  | cons c s =>
    by_cases hex : Decimal.isHexDigit c = true
    · exact ⟨c, s, rfl, hex, by simp [tokensFrom, hex]⟩
    · exact absurd (by simp [tokensFrom, hex]) (noFault .malformed)

/-- A backslash within a text begins a piece. -/
theorem exists_escape {units : List Nat}
    (noFault : ∀ fault, Token.fault fault ∉ tokensFrom (.escape units) s) :
    ∃ (p : Piece) (later : Text), '\\' :: s = p.source ++ later := by
  cases s with
  | nil => exact absurd List.mem_cons_self (noFault .malformed)
  | cons d s =>
    by_cases isUnit : d = 'u'
    · subst isUnit
      have inUnit : tokensFrom (.escape units) ('u' :: s) = tokensFrom (.unit units 4 0) s := by
        simp [tokensFrom]
      rw [inUnit] at noFault
      obtain ⟨a, s, rfl, hexA, same⟩ := exists_digit noFault
      rw [same] at noFault
      obtain ⟨b, s, rfl, hexB, same⟩ := exists_digit noFault
      rw [same] at noFault
      obtain ⟨c, s, rfl, hexC, same⟩ := exists_digit noFault
      rw [same] at noFault
      obtain ⟨d, s, rfl, hexD, -⟩ := exists_digit noFault
      exact ⟨.unit a b c d (by simp [hexA, hexB, hexC, hexD]), s, rfl⟩
    · cases stands : escape? d with
      | none => exact absurd (by simp [tokensFrom, isUnit, stands]) (noFault .malformed)
      | some plain => exact ⟨.escape d (by rw [stands]; rfl), s, rfl⟩

/-- Within a text comes its closing mark or a piece. -/
theorem exists_piece {units : List Nat}
    (noFault : ∀ fault, Token.fault fault ∉ tokensFrom (.text units) s) :
    (∃ behind, s = '"' :: behind) ∨ ∃ (p : Piece) (later : Text), s = p.source ++ later := by
  cases s with
  | nil => exact absurd List.mem_cons_self (noFault .malformed)
  | cons c s =>
    by_cases quote : c = '"'
    · exact .inl ⟨s, by rw [quote]⟩
    by_cases backslash : c = '\\'
    · subst backslash
      have inEscape : tokensFrom (.text units) ('\\' :: s) = tokensFrom (.escape units) s := by
        simp [tokensFrom]
      exact .inr (exists_escape (inEscape ▸ noFault))
    by_cases control : c.toNat < 32
    · exact absurd (by simp [tokensFrom, quote, backslash, control]) (noFault .malformed)
    · have free : isPlain c = true := by
        simp [isPlain, quote, backslash, Nat.not_lt.1 control]
      exact .inr ⟨.plain c free, s, rfl⟩

/-- What follows the opening mark of a text is cut into tokens only if the text is closed. -/
theorem exists_pieces (units : List Nat) (s : Text)
    (noFault : ∀ fault, Token.fault fault ∉ tokensFrom (.text units) s) :
    ∃ pieces behind, s = spelling pieces ++ '"' :: behind := by
  induction size : s.length using Nat.strong_induction_on generalizing s units with
  | _ n ih =>
  subst size
  rcases exists_piece noFault with ⟨behind, rfl⟩ | ⟨p, later, rfl⟩
  · exact ⟨[], behind, rfl⟩
  · have shorter : later.length < (p.source ++ later).length := by
      simpa using List.length_pos_iff.2 p.source_ne_nil
    rw [tokensFrom_piece] at noFault
    obtain ⟨pieces, behind, rfl⟩ := ih _ shorter _ later noFault rfl
    exact ⟨p :: pieces, behind, by simp [spelling]⟩

/-- What comes first, if neither blank nor mark nor text, is a word. -/
theorem exists_word {c : Char} (part : isWordPart c = true)
    (noFault : ∀ fault, Token.fault fault ∉ tokens (c :: s)) :
    ∃ letters later, c :: s = letters ++ later ∧ letters ≠ [] ∧ letters.all isWordChar = true ∧
      Text.Stops isWordPart later := by
  obtain ⟨letters, later, cut⟩ : ∃ letters later, (c :: s).span isWordPart = (letters, later) :=
    ⟨_, _, rfl⟩
  obtain ⟨same, parts, stops⟩ := Text.span_eq_iff.1 cut
  have nonempty : letters ≠ [] := by
    rintro rfl
    rw [List.nil_append] at same
    rw [← same, Text.stops_cons, part] at stops
    cases stops
  refine ⟨letters, later, same, nonempty, ?_, stops⟩
  have read : tokens (c :: s) = ofWord letters :: tokens later := by
    rw [same]
    exact tokensFrom_letters nonempty parts stops
  cases word : ofWord letters with
  | atom v => exact isWordChar_of_ofWord word
  | fault fault => exact absurd (by rw [read, word]; exact List.mem_cons_self) (noFault fault)
  | _ =>
    have isWord := isWord_ofWord letters
    rw [word] at isWord
    cases isWord

/-- A lexeme comes first where no blank does. -/
theorem exists_lexeme {c : Char} (blank : isBlank c = false)
    (noFault : ∀ fault, Token.fault fault ∉ tokens (c :: s)) :
    ∃ (l : Lexeme) (later : Text), c :: s = l.source ++ later ∧
      (l.isWord = true → Text.Stops isWordPart later) := by
  by_cases quote : c = '"'
  · subst quote
    have read : tokens ('"' :: s) = tokensFrom (.text []) s := by
      simp [tokens, tokensFrom, isBlank]
    obtain ⟨pieces, behind, rfl⟩ := exists_pieces [] s (read ▸ noFault)
    exact ⟨.text pieces, behind, by simp [Lexeme.source], fun word => by cases word⟩
  cases stands : punctuation? c with
  | some token => exact ⟨.mark c (by rw [stands]; rfl), s, rfl, fun word => by cases word⟩
  | none =>
    obtain ⟨letters, later, same, nonempty, chars, stops⟩ :=
      exists_word (isWordPart_iff.2 ⟨blank, quote, stands⟩) noFault
    exact ⟨.word letters nonempty chars, later, same, fun _ => stops⟩

/-- What is cut into tokens is a plain layout of lexemes. -/
theorem exists_plain (s : Text) (noFault : ∀ fault, Token.fault fault ∉ tokens s) :
    ∃ lexemes, Plain lexemes s ∧ tokens s = lexemes.map Lexeme.token := by
  induction size : s.length using Nat.strong_induction_on generalizing s with
  | _ n ih =>
  subst size
  cases s with
  | nil => exact ⟨[], .done nofun, rfl⟩
  | cons c s =>
    cases blank : isBlank c with
    | true =>
      have read : tokens (c :: s) = tokens s := by simp [tokens, tokensFrom, blank]
      rw [read] at noFault ⊢
      obtain ⟨lexemes, plain, readLater⟩ := ih _ (by simp) s noFault rfl
      exact ⟨lexemes, plain.prepend (s := [c]) (by simpa [IsBlanks] using blank), readLater⟩
    | false =>
      obtain ⟨l, later, same, stops⟩ := exists_lexeme blank noFault
      rw [same] at noFault ih ⊢
      have read : tokens (l.source ++ later) = l.token :: tokens later := tokensFrom_lexeme l stops
      have shorter : later.length < (l.source ++ later).length := by
        simpa using List.length_pos_iff.2 l.source_ne_nil
      obtain ⟨lexemes, plain, readLater⟩ := ih _ shorter later
        (fun fault member => noFault fault (by rw [read]; exact List.mem_cons_of_mem _ member)) rfl
      refine ⟨l :: lexemes, ?_, by rw [read, readLater]; rfl⟩
      exact .next (g := []) nofun plain

/-- The tokens of a text that denotes a value form the value. -/
theorem denotes_of_parse (read : parse s = .ok v) :
    Denotes .value v.leaves (tokens s) := by
  unfold parse ofTokens at read
  obtain ⟨⟨value, behind⟩, taken, same⟩ := bind_eq_ok_iff.1 read
  split at same
  · next found =>
    obtain ⟨rfl, rfl⟩ := Prod.mk.inj found
    obtain rfl := Except.ok.inj same
    obtain ⟨used, all, denotes⟩ := (takesParts _).value taken
    rw [List.append_nil] at all
    exact all ▸ denotes
  · cases same

/-- Every text that denotes a value is a plain layout of a document. -/
theorem exists_document (read : parse s = .ok v) :
    ∃ lexemes : List Lexeme, lexemes.IsChain Lexeme.Precedes ∧ Plain lexemes s := by
  have chained := (denotes_of_parse read).1.chained
  obtain ⟨lexemes, plain, same⟩ := exists_plain s chained.noFault
  refine ⟨lexemes, ?_, plain⟩
  have chain := chained.chain
  rw [same, List.isChain_map] at chain
  exact chain.imp fun _ _ => precedes_token_iff.1

end Groundwork.Json
