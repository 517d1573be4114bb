import Groundwork.Json.Document
import Groundwork.Proofs.Text.Span
import Mathlib.Data.List.Chain

/-!
# Layouts of JSON

The same JSON is written in many ways, which differ in what stands between its lexemes. `Written`
says which texts these are, for any choice of what may stand there; a lexeme carries the proof that
it is well formed. The plain layouts (`Plain`), with nothing but blanks between lexemes, are read as
the tokens of the lexemes (`tokens_of_plain`).
-/

namespace Groundwork.Json

open Text (Stops stops_nil stops_cons)

/-! ## Lexemes -/

/-- A character of a text that is written as it is. -/
def isPlain (c : Char) : Bool := c ≠ '"' && c ≠ '\\' && 32 ≤ c.toNat

/-- How one unit of a text is written. -/
inductive Piece where
  | plain (c : Char) (free : isPlain c = true)
  /-- A backslash and the letter of an escape. -/
  | escape (c : Char) (known : (escape? c).isSome = true)
  /-- The number of a unit, in four digits. -/
  | unit (a b c d : Char) (hex : [a, b, c, d].all Decimal.isHexDigit = true)

namespace Piece

/-- The characters of a piece. -/
def source : Piece → Text
  | plain c _ => [c]
  | escape c _ => ['\\', c]
  | unit a b c d _ => ['\\', 'u', a, b, c, d]

/-- The unit that a piece stands for. -/
def value : Piece → Nat
  | plain c _ => c.toNat
  | escape c known => ((escape? c).get known).toNat
  | unit a b c d _ => Decimal.valueOf 16 [a, b, c, d]

end Piece

/-- The characters between the quotation marks of a text. -/
def spelling (pieces : List Piece) : Text := pieces.flatMap Piece.source

/-- A character that continues a word. -/
def isWordPart (c : Char) : Bool := !isBlank c && c ≠ '"' && (punctuation? c).isNone

/-- A character of a number, a truth value or null. -/
def isWordChar (c : Char) : Bool := c.isAlphanum || c = '+' || c = '-' || c = '.'

/-- What stands between two places where blanks may be put. -/
inductive Lexeme where
  | mark (c : Char) (known : (punctuation? c).isSome = true)
  /-- A number, a truth value or null. -/
  | word (letters : Text) (nonempty : letters ≠ []) (chars : letters.all isWordChar = true)
  | text (pieces : List Piece)

namespace Lexeme

/-- The characters of a lexeme. -/
def source : Lexeme → Text
  | mark c _ => [c]
  | word letters _ _ => letters
  | text pieces => '"' :: (spelling pieces ++ ['"'])

/-- The token that a lexeme is read as. -/
def token : Lexeme → Token
  | mark c known => (punctuation? c).get known
  | word letters _ _ => ofWord letters
  | text pieces => .text (textOfUnits (pieces.map Piece.value))

/-- The lexeme stands between two items. -/
def isComma : Lexeme → Bool
  | mark c _ => c = ','
  | _ => false

/-- The lexeme ends a list or a mapping. -/
def closes : Lexeme → Bool
  | mark c _ => c = ']' || c = '\x7d'
  | _ => false

/-- The lexeme is a word. -/
def isWord : Lexeme → Bool
  | word _ _ _ => true
  | _ => false

/-- One lexeme may stand right before the other in a document: a comma does not come last, and two
    words have a mark between them. -/
def Precedes (l next : Lexeme) : Prop :=
  (l.isComma = true → next.closes = false) ∧ (l.isWord = true → next.isWord = false)

end Lexeme

/-! ## Layouts -/

variable {gap final : Text → Prop} {commas : Prop} {lexemes : List Lexeme} {s t : Text}
  {pieces : List Piece}

/-- The text has the lexemes in order. A gap stands before each, and an end after the last. There
    may be one further comma before what closes a list or a mapping, if `commas` allows it. -/
inductive Written (gap final : Text → Prop) (commas : Prop) : List Lexeme → Text → Prop
  | done {s : Text} (ends : final s) : Written gap final commas [] s
  | next {g s : Text} {l : Lexeme} {lexemes : List Lexeme} (before : gap g)
      (rest : Written gap final commas lexemes s) :
      Written gap final commas (l :: lexemes) (g ++ (l.source ++ s))
  | lastComma {g g' s : Text} {l : Lexeme} {lexemes : List Lexeme} (allowed : commas)
      (closes : l.closes = true) (before : gap g) (behind : gap g')
      (rest : Written gap final commas lexemes s) :
      Written gap final commas (l :: lexemes) (g ++ ',' :: (g' ++ (l.source ++ s)))

/-- Nothing but blanks. -/
def IsBlanks (s : Text) : Prop := ∀ c ∈ s, isBlank c = true

/-- A layout with nothing but blanks between the lexemes. -/
abbrev Plain : List Lexeme → Text → Prop := Written IsBlanks IsBlanks False

/-! ## Reading lexemes -/

theorem Piece.source_ne_nil (p : Piece) : p.source ≠ [] := by
  cases p <;> exact List.cons_ne_nil _ _

theorem Lexeme.source_ne_nil (l : Lexeme) : l.source ≠ [] := by
  cases l with
  | mark c known => exact List.cons_ne_nil _ _
  | word letters nonempty chars => exact nonempty
  | text pieces => exact List.cons_ne_nil _ _

theorem mark_cases {c : Char} (known : (punctuation? c).isSome = true) :
    c = '\x7b' ∨ c = '\x7d' ∨ c = '[' ∨ c = ']' ∨ c = ':' ∨ c = ',' := by
  unfold punctuation? at known
  split_ifs at known <;> simp_all

theorem isWordPart_iff {c : Char} :
    isWordPart c = true ↔ isBlank c = false ∧ c ≠ '"' ∧ punctuation? c = none := by
  simp [isWordPart, and_assoc]

theorem isWordPart_of_isWordChar {c : Char} (char : isWordChar c = true) : isWordPart c = true := by
  have other {d : Char} (mark : isWordChar d = false) : c ≠ d := by
    rintro rfl
    rw [mark] at char
    cases char
  have blank : isBlank c = false := by
    simp [isBlank, other (d := ' ') rfl, other (d := '\t') rfl, other (d := '\n') rfl,
      other (d := '\r') rfl]
  have noMark : punctuation? c = none := by
    simp [punctuation?, other (d := '\x7b') rfl, other (d := '\x7d') rfl, other (d := '[') rfl,
      other (d := ']') rfl, other (d := ':') rfl, other (d := ',') rfl]
  exact isWordPart_iff.2 ⟨blank, other rfl, noMark⟩

theorem tokensFrom_piece (units : List Nat) (p : Piece) (s : Text) :
    tokensFrom (.text units) (p.source ++ s) = tokensFrom (.text (p.value :: units)) s := by
  cases p with
  | plain c free =>
    unfold isPlain at free
    simp only [ne_eq, Bool.and_eq_true, decide_eq_true_eq] at free
    obtain ⟨⟨noQuote, noBackslash⟩, high⟩ := free
    simp [Piece.source, Piece.value, tokensFrom, noQuote, noBackslash, Nat.not_lt.2 high]
  | escape c known =>
    obtain ⟨d, stands⟩ := Option.isSome_iff_exists.1 known
    have noUnit : c ≠ 'u' := by
      rintro rfl
      cases stands
    simp [Piece.source, Piece.value, tokensFrom, noUnit, stands]
  | unit a b c d hex =>
    simp only [List.all_cons, List.all_nil, Bool.and_true, Bool.and_eq_true] at hex
    obtain ⟨ha, hb, hc, hd⟩ := hex
    simp [Piece.source, Piece.value, tokensFrom, ha, hb, hc, hd, Decimal.valueOf]

theorem tokensFrom_pieces (units : List Nat) (pieces : List Piece) (s : Text) :
    tokensFrom (.text units) (spelling pieces ++ '"' :: s) =
      .text (textOfUnits (units.reverse ++ pieces.map Piece.value)) :: tokensFrom .between s := by
  induction pieces generalizing units with
  | nil => simp [spelling, tokensFrom]
  | cons p pieces ih =>
    have cut : spelling (p :: pieces) ++ '"' :: s =
        p.source ++ (spelling pieces ++ '"' :: s) := by
      simp [spelling]
    rw [cut, tokensFrom_piece, ih]
    simp

/-- A word ends where no character continues it. -/
theorem tokensFrom_word (front : Text) {letters : Text} (parts : letters.all isWordPart = true)
    (stops : Stops isWordPart s) :
    tokensFrom (.word front) (letters ++ s) =
      ofWord (front.reverse ++ letters) :: tokensFrom .between s := by
  induction letters generalizing front with
  | nil =>
    cases s with
    | nil => simp [tokensFrom]
    | cons c s =>
      rw [stops_cons, isWordPart] at stops
      by_cases blank : isBlank c = true
      · simp [tokensFrom, blank]
      by_cases quote : c = '"'
      · simp [tokensFrom, quote, isBlank]
      · have isMark : (punctuation? c).isSome = true := by
          simpa [blank, quote] using stops
        obtain ⟨token, known⟩ := Option.isSome_iff_exists.1 isMark
        simp [tokensFrom, blank, quote, known]
  | cons c letters ih =>
    rw [List.all_cons, Bool.and_eq_true] at parts
    have read := ih (c :: front) parts.2
    obtain ⟨blank, quote, other⟩ := isWordPart_iff.1 parts.1
    simp [tokensFrom, blank, quote, other, read]

theorem tokensFrom_letters {letters : Text} (nonempty : letters ≠ [])
    (parts : letters.all isWordPart = true) (stops : Stops isWordPart s) :
    tokensFrom .between (letters ++ s) = ofWord letters :: tokensFrom .between s := by
  obtain ⟨c, letters, rfl⟩ := List.exists_cons_of_ne_nil nonempty
  rw [List.all_cons, Bool.and_eq_true] at parts
  have read := tokensFrom_word [c] parts.2 stops
  obtain ⟨blank, quote, other⟩ := isWordPart_iff.1 parts.1
  simpa [tokensFrom, blank, quote, other] using read

/-- A lexeme is read as its token; a word only if nothing continues it. -/
theorem tokensFrom_lexeme (l : Lexeme) (stops : l.isWord = true → Stops isWordPart s) :
    tokensFrom .between (l.source ++ s) = l.token :: tokensFrom .between s := by
  cases l with
  | mark c known =>
    obtain rfl | rfl | rfl | rfl | rfl | rfl := mark_cases known <;> rfl
  | word letters nonempty chars =>
    have parts : letters.all isWordPart = true :=
      List.all_eq_true.2 fun c member =>
        isWordPart_of_isWordChar (List.all_eq_true.1 chars c member)
    exact tokensFrom_letters nonempty parts (stops rfl)
  | text pieces =>
    have read := tokensFrom_pieces [] pieces s
    simpa [Lexeme.source, Lexeme.token, tokensFrom, isBlank] using read

theorem tokensFrom_blanks (blanks : IsBlanks s) (t : Text) :
    tokensFrom .between (s ++ t) = tokensFrom .between t := by
  induction s with
  | nil => rfl
  | cons c s ih =>
    have blank := blanks c List.mem_cons_self
    have read := ih fun d member => blanks d (List.mem_cons_of_mem c member)
    simp [tokensFrom, blank, read]

/-! ## Reading layouts -/

theorem IsBlanks.append (front : IsBlanks s) (back : IsBlanks t) : IsBlanks (s ++ t) := by
  intro c member
  rcases List.mem_append.1 member with member | member
  · exact front c member
  · exact back c member

/-- More blanks may stand at the front of a layout. -/
theorem Written.prepend (blanks : IsBlanks s)
    (written : Written IsBlanks IsBlanks commas lexemes t) :
    Written IsBlanks IsBlanks commas lexemes (s ++ t) := by
  cases written with
  | done ends => exact .done (blanks.append ends)
  | next before rest =>
    rw [← List.append_assoc]
    exact .next (blanks.append before) rest
  | lastComma allowed closes before behind rest =>
    rw [← List.append_assoc]
    exact .lastComma allowed closes (blanks.append before) behind rest

theorem stops_of_blanks (blanks : IsBlanks s) (stops : Stops isWordPart t) :
    Stops isWordPart (s ++ t) :=
  stops.after_run (List.all_eq_true.2 blanks) fun _ blank => by simp [isWordPart, blank]

theorem stops_source {l : Lexeme} (other : l.isWord = false) (s : Text) :
    Stops isWordPart (l.source ++ s) := by
  cases l with
  | mark c known => exact (stops_cons _ _ _).2 (by simp [isWordPart, known])
  | word => cases other
  | text => exact (stops_cons _ _ _).2 (by decide)

/-- Nothing continues a word before the first lexeme of a layout, unless this is a word. -/
theorem Written.stops (written : Written IsBlanks IsBlanks commas lexemes s)
    (other : ∀ l ∈ lexemes.head?, l.isWord = false) : Stops isWordPart s := by
  cases written with
  | done ends =>
    rw [← List.append_nil s]
    exact stops_of_blanks ends (stops_nil _)
  | next before rest => exact stops_of_blanks before (stops_source (other _ rfl) _)
  | lastComma allowed closes before behind rest =>
    exact stops_of_blanks before ((stops_cons _ _ _).2 (by decide))

/-- A plain layout is read as the tokens of its lexemes. -/
theorem tokens_of_plain (document : lexemes.IsChain Lexeme.Precedes) (plain : Plain lexemes s) :
    tokens s = lexemes.map Lexeme.token := by
  unfold tokens
  induction plain with
  | done ends =>
    have read := tokensFrom_blanks ends []
    rw [List.append_nil] at read
    exact read
  | @next g s l lexemes before rest ih =>
    obtain ⟨first, later⟩ := List.isChain_cons.1 document
    have stops : l.isWord = true → Stops isWordPart s := fun word =>
      rest.stops fun next isNext => (first next isNext).2 word
    rw [tokensFrom_blanks before, tokensFrom_lexeme l stops, ih later, List.map_cons]
  | lastComma allowed => exact allowed.elim

/-- A plain layout is read as what its lexemes denote. -/
theorem parse_of_plain (document : lexemes.IsChain Lexeme.Precedes) (plain : Plain lexemes s) :
    parse s = ofTokens (lexemes.map Lexeme.token) := by
  unfold parse
  rw [tokens_of_plain document plain]

end Groundwork.Json
