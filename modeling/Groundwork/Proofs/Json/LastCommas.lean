import Groundwork.Proofs.Json.Comments

/-!
# JSON without last commas

The second pass takes out commas before closing marks wherever they stand, in the texts too
(`plain_stripLastCommas`). So a document with comments and last commas is left as a plain layout of
its lexemes, but its texts lose the commas that stand before a closing mark in them, and it denotes
what it did exactly if there are none (`parse_strip_iff`).
-/

namespace Groundwork.Json

variable {l : Lexeme} {lexemes : List Lexeme} {pieces : List Piece} {g s t : Text} {c : Char}

/-! ## Taking out last commas -/

/-- A comma before a closing mark stands in the text, with nothing but blanks between them. -/
def HasLastComma (s : Text) : Prop :=
  ∃ before after, s = before ++ ',' :: after ∧ closesNext after = true

/-- What comes after blanks counts. -/
theorem closesNext_append (blanks : ∀ c ∈ g, Text.isBlank c = true) (s : Text) :
    closesNext (g ++ s) = closesNext s := by
  unfold closesNext Text.dropBlanks
  rw [List.dropWhile_append_of_pos blanks]

theorem closesNext_cons (noBlank : Text.isBlank c = false) (s : Text) :
    closesNext (c :: s) = (decide (c = ']') || decide (c = '\x7d')) := by
  simp [closesNext, Text.dropBlanks, noBlank]

/-- Whether a closing mark comes next is settled before a character that is neither a blank nor such
    a mark. -/
theorem closesNext_append_cons (noBlank : Text.isBlank c = false)
    (noClose : (decide (c = ']') || decide (c = '\x7d')) = false) (s t : Text) :
    closesNext (s ++ c :: t) = closesNext s := by
  induction s with
  | nil => rw [List.nil_append, closesNext_cons noBlank, noClose]; rfl
  | cons d s ih =>
    by_cases blank : Text.isBlank d = true
    · have one : ∀ x ∈ [d], Text.isBlank x = true := by simpa using blank
      have front := closesNext_append one (s ++ c :: t)
      have back := closesNext_append one s
      rw [List.singleton_append] at front back
      rw [List.cons_append, front, back, ih]
    · rw [Bool.not_eq_true] at blank
      rw [List.cons_append, closesNext_cons blank, closesNext_cons blank]

theorem stripLastCommas_append (noComma : ',' ∉ s) (t : Text) :
    stripLastCommas (s ++ t) = s ++ stripLastCommas t := by
  induction s with
  | nil => rfl
  | cons c s ih =>
    obtain ⟨other, later⟩ := not_or.1 (List.mem_cons.not.1 noComma)
    simp [stripLastCommas, Ne.symm other, ih later]

/-- A character that is neither a blank nor a mark parts what is stripped. -/
theorem stripLastCommas_append_cons (noBlank : Text.isBlank c = false)
    (noClose : (decide (c = ']') || decide (c = '\x7d')) = false) (noComma : c ≠ ',') (s t : Text) :
    stripLastCommas (s ++ c :: t) = stripLastCommas s ++ c :: stripLastCommas t := by
  induction s with
  | nil => simp [stripLastCommas, noComma]
  | cons d s ih =>
    simp only [List.cons_append, stripLastCommas, closesNext_append_cons noBlank noClose, ih]
    split_ifs <;> rfl

theorem length_stripLastCommas_le (s : Text) : (stripLastCommas s).length ≤ s.length := by
  induction s with
  | nil => exact le_rfl
  | cons c s ih =>
    unfold stripLastCommas
    split_ifs
    · exact ih.trans (Nat.le_succ _)
    · exact Nat.succ_le_succ ih

theorem hasLastComma_cons :
    HasLastComma (c :: s) ↔ (c = ',' ∧ closesNext s = true) ∨ HasLastComma s := by
  constructor
  · rintro ⟨before, after, cut, closes⟩
    cases before with
    | nil =>
      obtain ⟨rfl, rfl⟩ := List.cons.inj cut
      exact .inl ⟨rfl, closes⟩
    | cons d before =>
      obtain ⟨rfl, rfl⟩ := List.cons.inj cut
      exact .inr ⟨before, after, rfl, closes⟩
  · rintro (⟨rfl, closes⟩ | ⟨before, after, rfl, closes⟩)
    · exact ⟨[], s, rfl, closes⟩
    · exact ⟨c :: before, after, rfl, closes⟩

/-- A text is left as it is exactly if it has no last comma. -/
theorem stripLastCommas_eq_self_iff : stripLastCommas s = s ↔ ¬ HasLastComma s := by
  induction s with
  | nil =>
    refine iff_of_true rfl ?_
    rintro ⟨before, after, cut, -⟩
    simp at cut
  | cons c s ih =>
    rw [hasLastComma_cons]
    by_cases last : c = ',' ∧ closesNext s = true
    · refine iff_of_false (fun same => ?_) (not_not_intro (.inl last))
      have shorter := length_stripLastCommas_le s
      have lengths := congrArg List.length same
      rw [stripLastCommas, if_pos (by simpa using last), List.length_cons] at lengths
      omega
    · rw [stripLastCommas, if_neg (by simpa using last), List.cons.injEq, ih]
      simp [last]

/-! ### Texts between quotation marks -/

/-- The pieces of a text without commas before closing marks. -/
def barePieces : List Piece → List Piece
  | [] => []
  | p :: pieces =>
    if p.source = [','] ∧ closesNext (spelling pieces) then barePieces pieces
    else p :: barePieces pieces

theorem spelling_cons (p : Piece) (pieces : List Piece) :
    spelling (p :: pieces) = p.source ++ spelling pieces :=
  List.flatMap_cons

/-- A comma is written as it is. -/
theorem source_of_comma_mem {p : Piece} (comma : ',' ∈ p.source) : p.source = [','] := by
  cases p with
  | plain c free => rw [Piece.source, List.mem_singleton.1 comma]
  | escape c known =>
    rcases List.mem_cons.1 comma with other | here
    · exact absurd other (by decide)
    · obtain rfl := List.mem_singleton.1 here
      cases known
  | unit a b c d hex =>
    rcases List.mem_cons.1 comma with other | comma
    · exact absurd other (by decide)
    rcases List.mem_cons.1 comma with other | comma
    · exact absurd other (by decide)
    · exact absurd (List.all_eq_true.1 hex _ comma) (by decide)

theorem spelling_barePieces (pieces : List Piece) :
    spelling (barePieces pieces) = stripLastCommas (spelling pieces) := by
  induction pieces with
  | nil => rfl
  | cons p pieces ih =>
    rw [spelling_cons]
    by_cases comma : ',' ∈ p.source
    · have source := source_of_comma_mem comma
      unfold barePieces
      split_ifs with last
      · rw [ih, source, List.singleton_append, stripLastCommas, if_pos (by simp [last.2])]
      · rw [spelling_cons, ih, source, List.singleton_append, List.singleton_append,
          stripLastCommas, if_neg (by simpa [source] using last)]
    · have other : p.source ≠ [','] := fun source => comma (by simp [source])
      rw [stripLastCommas_append comma, barePieces, if_neg (fun last => other last.1),
        spelling_cons, ih]

theorem barePieces_eq_self_iff : barePieces pieces = pieces ↔ ¬ HasLastComma (spelling pieces) := by
  constructor
  · intro same
    rw [← stripLastCommas_eq_self_iff, ← spelling_barePieces, same]
  · intro none
    induction pieces with
    | nil => rfl
    | cons p pieces ih =>
      rw [spelling_cons] at none
      have later : ¬ HasLastComma (spelling pieces) := by
        rintro ⟨before, after, cut, closes⟩
        exact none ⟨p.source ++ before, after, by rw [cut, List.append_assoc], closes⟩
      rw [barePieces, if_neg, ih later]
      rintro ⟨source, closes⟩
      exact none ⟨[], _, by rw [source]; rfl, closes⟩

/-! ### Lexemes -/

namespace Lexeme

/-- A lexeme as it is left: a text loses its commas before closing marks. -/
def bare : Lexeme → Lexeme
  | text pieces => text (barePieces pieces)
  | l => l

/-- A text that loses a comma. -/
def IsSpoiled : Lexeme → Prop
  | text pieces => HasLastComma (spelling pieces)
  | _ => False

theorem bare_eq_self_iff : l.bare = l ↔ ¬ l.IsSpoiled := by
  cases l with
  | mark | word => exact iff_of_true rfl id
  | text pieces =>
    unfold bare IsSpoiled
    rw [text.injEq, barePieces_eq_self_iff]

@[simp] theorem isComma_bare (l : Lexeme) : l.bare.isComma = l.isComma := by
  cases l <;> rfl

@[simp] theorem closes_bare (l : Lexeme) : l.bare.closes = l.closes := by
  cases l <;> rfl

@[simp] theorem isWord_bare (l : Lexeme) : l.bare.isWord = l.isWord := by
  cases l <;> rfl

end Lexeme

theorem isBlank_of_punctuation? (known : (punctuation? c).isSome = true) :
    Text.isBlank c = false := by
  obtain rfl | rfl | rfl | rfl | rfl | rfl := mark_cases known <;> rfl

theorem isBlank_of_isWordChar (char : isWordChar c = true) : Text.isBlank c = false := by
  simp only [isWordChar, Bool.or_eq_true, decide_eq_true_eq] at char
  rcases char with ((letter | rfl) | rfl) | rfl
  · obtain ⟨low, high⟩ := Text.toNat_of_isAlphanum letter
    rw [Bool.eq_false_iff]
    intro blank
    simp only [Text.isBlank, Bool.or_eq_true, Bool.and_eq_true, decide_eq_true_eq] at blank
    rcases blank with ((rfl | control) | separator) | ⟨wide, -⟩
    · exact absurd low (by decide)
    · omega
    · omega
    · omega
  · decide
  · decide
  · decide

/-- A lexeme is left as it is, but for the texts' commas. A comma between items has to be kept. -/
theorem stripLastCommas_lexeme (kept : l.isComma = true → closesNext s = false) :
    stripLastCommas (l.source ++ s) = l.bare.source ++ stripLastCommas s := by
  cases l with
  | mark c known =>
    by_cases comma : c = ','
    · subst comma
      simp [Lexeme.source, Lexeme.bare, stripLastCommas, kept rfl]
    · exact stripLastCommas_append (by simpa [Lexeme.source, eq_comm] using comma) s
  | word letters nonempty chars =>
    refine stripLastCommas_append (fun comma => ?_) s
    exact absurd (List.all_eq_true.1 chars _ comma) (by decide)
  | text pieces =>
    have mark : stripLastCommas ('"' :: (spelling pieces ++ '"' :: s)) =
        '"' :: stripLastCommas (spelling pieces ++ '"' :: s) := rfl
    have cut : (Lexeme.text pieces).source ++ s = '"' :: (spelling pieces ++ '"' :: s) := by
      simp [Lexeme.source]
    rw [cut, mark, stripLastCommas_append_cons (by decide) (by decide) (by decide),
      ← spelling_barePieces]
    simp [Lexeme.source, Lexeme.bare]

theorem closesNext_lexeme (l : Lexeme) (s : Text) : closesNext (l.source ++ s) = l.closes := by
  cases l with
  | mark c known => exact closesNext_cons (isBlank_of_punctuation? known) s
  | word letters nonempty chars =>
    obtain ⟨c, letters, rfl⟩ := List.exists_cons_of_ne_nil nonempty
    rw [List.all_cons, Bool.and_eq_true] at chars
    have other (d : Char) (mark : isWordChar d = false) : c ≠ d := by
      rintro rfl
      rw [mark] at chars
      cases chars.1
    refine (closesNext_cons (isBlank_of_isWordChar chars.1) _).trans ?_
    simp [Lexeme.closes, other ']' rfl, other '\x7d' rfl]
  | text pieces => exact closesNext_cons (by decide) _

/-! ### Layouts -/

theorem isBlank_text (blanks : IsBlanks g) : ∀ c ∈ g, Text.isBlank c = true := by
  intro c member
  have blank := blanks c member
  simp only [isBlank, Bool.or_eq_true, decide_eq_true_eq] at blank
  rcases blank with ((rfl | rfl) | rfl) | rfl <;> decide

theorem stripLastCommas_blanks (blanks : IsBlanks g) (s : Text) :
    stripLastCommas (g ++ s) = g ++ stripLastCommas s := by
  refine stripLastCommas_append (fun comma => ?_) s
  exact absurd (blanks _ comma) (by decide)

/-- No closing mark comes next where the first lexeme is none. -/
theorem closesNext_loose (loose : Loose lexemes s) (other : ∀ l ∈ lexemes.head?, l.closes = false) :
    closesNext s = false := by
  cases loose with
  | done ends =>
    have read := closesNext_append (isBlank_text ends) []
    rw [List.append_nil] at read
    exact read
  | next before rest =>
    rw [closesNext_append (isBlank_text before), closesNext_lexeme]
    exact other _ rfl
  | @lastComma _ _ _ l _ allowed closes before behind rest =>
    rw [other l rfl] at closes
    cases closes

/-- Without the last commas a layout is a plain one. -/
theorem plain_stripLastCommas (apart : lexemes.IsChain Lexeme.Precedes) (loose : Loose lexemes s) :
    Plain (lexemes.map Lexeme.bare) (stripLastCommas s) := by
  induction loose with
  | done ends =>
    have stripped := stripLastCommas_blanks ends []
    simp only [List.append_nil] at stripped
    rw [stripped]
    simpa [stripLastCommas] using Written.done ends
  | @next g s l lexemes before rest ih =>
    obtain ⟨first, later⟩ := List.isChain_cons.1 apart
    have plain := ih later
    rw [stripLastCommas_blanks before, List.map_cons]
    rw [stripLastCommas_lexeme fun comma =>
      closesNext_loose rest fun next isNext => (first next isNext).1 comma]
    exact .next before plain
  | @lastComma g g' s l lexemes allowed closes before behind rest ih =>
    have plain := ih (List.isChain_cons.1 apart).2
    have follows : closesNext (g' ++ (l.source ++ s)) = true := by
      rw [closesNext_append (isBlank_text behind), closesNext_lexeme, closes]
    have noComma : l.isComma = true → closesNext s = false := by
      intro comma
      cases l with
      | mark c known =>
        obtain rfl : c = ',' := by simpa [Lexeme.isComma] using comma
        cases closes
      | word | text => cases comma
    rw [stripLastCommas_blanks before, stripLastCommas, if_pos (by simp [follows]),
      stripLastCommas_blanks behind, stripLastCommas_lexeme noComma, ← List.append_assoc,
      List.map_cons]
    exact .next (before.append behind) plain

/-! ## What is read of stripped texts -/

theorem ofNat_eq_comma_iff {n : Nat} : Char.ofNat n = ',' ↔ n = 44 := by
  constructor
  · intro same
    have number := congrArg Char.toNat same
    rw [Char.toNat_ofNat] at number
    split_ifs at number
    · exact number
    · cases number
  · rintro rfl
    rfl

/-- A unit that stands for a half of a character is no comma. -/
theorem ne_comma_of_half {n : Nat} (half : isHigh n = true ∨ isLow n = true) : n ≠ 44 := by
  rintro rfl
  rcases half with half | half <;> cases half

/-- The commas of a text are the units of commas. -/
theorem count_characters (units : List Nat) :
    ((characters units).map fun c => c.getD '\ufffd').count ',' = units.count 44 := by
  fun_induction characters units with
  | case1 => rfl
  | case2 n =>
    split_ifs with half
    · have other := ne_comma_of_half (by simpa using half)
      simp [other]
    · simp [List.count_cons, ofNat_eq_comma_iff]
  | case3 high low rest pair ih =>
    rw [Bool.and_eq_true] at pair
    have noHigh := ne_comma_of_half (.inl pair.1)
    have noLow := ne_comma_of_half (.inr pair.2)
    have other : Char.ofNat (0x10000 + (high - 0xD800) * 0x400 + (low - 0xDC00)) ≠ ',' := by
      rw [Ne, ofNat_eq_comma_iff]
      omega
    rw [List.map_cons, Option.getD_some, List.count_cons_of_ne other, ih,
      List.count_cons_of_ne noHigh, List.count_cons_of_ne noLow]
  | case4 high low rest _ half ih =>
    have other := ne_comma_of_half (by simpa using half)
    simp [other, ih]
  | case5 high low rest _ half ih => simp [List.count_cons, ofNat_eq_comma_iff, ih]

/-- Texts of equal values have equally many commas. -/
theorem count_eq_of_textOfUnits {units others : List Nat}
    (same : textOfUnits units = textOfUnits others) : units.count 44 = others.count 44 := by
  rw [← count_characters, ← count_characters]
  unfold textOfUnits Value.ofCharacters at same
  dsimp only at same
  split_ifs at same
  · rw [Value.text.inj same]
  · rw [Value.brokenText.inj same]

theorem barePieces_sublist (pieces : List Piece) : (barePieces pieces).Sublist pieces := by
  induction pieces with
  | nil => exact .slnil
  | cons p pieces ih =>
    unfold barePieces
    split_ifs
    · exact ih.cons p
    · exact ih.cons_cons p

theorem value_of_comma {p : Piece} (comma : p.source = [',']) : p.value = 44 := by
  cases p with
  | plain c free =>
    obtain rfl : c = ',' := by simpa [Piece.source] using comma
    rfl
  | escape | unit => cases comma

/-- The units of commas of a text that is left show whether it lost one. -/
theorem barePieces_eq_self_of_count
    (same : ((barePieces pieces).map Piece.value).count 44 = (pieces.map Piece.value).count 44) :
    barePieces pieces = pieces := by
  have fewer (pieces : List Piece) :
      ((barePieces pieces).map Piece.value).count 44 ≤ (pieces.map Piece.value).count 44 := by
    exact ((barePieces_sublist pieces).map Piece.value).count_le 44
  induction pieces with
  | nil => rfl
  | cons p pieces ih =>
    unfold barePieces at same ⊢
    split_ifs at same ⊢ with last
    · have comma : p.value = 44 := value_of_comma last.1
      have later := fewer pieces
      rw [List.map_cons, List.count_cons, comma] at same
      simp at same
      omega
    · simp only [List.map_cons, List.count_cons, Nat.add_right_cancel_iff] at same
      rw [ih same]

namespace Lexeme

theorem bare_eq_self_of_value?
    (same : l.bare.token.value?.toList = l.token.value?.toList) : l.bare = l := by
  cases l with
  | mark | word => rfl
  | text pieces =>
    have texts := (List.cons.inj same).1
    exact congrArg text (barePieces_eq_self_of_count (count_eq_of_textOfUnits texts))

theorem length_value?_bare (l : Lexeme) :
    l.bare.token.value?.toList.length = l.token.value?.toList.length := by
  cases l <;> rfl

end Lexeme

/-- Lexemes are left as they are if the values in them are. -/
theorem bare_eq_self_of_valuesOf
    (same : valuesOf ((lexemes.map Lexeme.bare).map Lexeme.token) =
      valuesOf (lexemes.map Lexeme.token)) : ∀ l ∈ lexemes, l.bare = l := by
  induction lexemes with
  | nil => exact nofun
  | cons l lexemes ih =>
    simp only [List.map_cons, valuesOf_cons] at same
    obtain ⟨first, later⟩ := List.append_inj same (Lexeme.length_value?_bare l)
    intro other member
    rcases List.mem_cons.1 member with rfl | member
    · exact Lexeme.bare_eq_self_of_value? first
    · exact ih later other member

/-- What a plain layout denotes has the values of its lexemes as leaves. -/
theorem leaves_of_parse {v : Value} (apart : lexemes.IsChain Lexeme.Precedes)
    (plain : Plain lexemes s) (read : parse s = .ok v) :
    v.leaves = valuesOf (lexemes.map Lexeme.token) := by
  obtain ⟨-, leaves⟩ := denotes_of_parse read
  rw [tokens_of_plain apart plain] at leaves
  refine leaves fun token member => ?_
  obtain ⟨l, -, rfl⟩ := List.mem_map.1 member
  exact isLeaf_token l

theorem apart_bare (apart : lexemes.IsChain Lexeme.Precedes) :
    (lexemes.map Lexeme.bare).IsChain Lexeme.Precedes := by
  rw [List.isChain_map]
  exact apart.imp fun l next precedes => by simpa [Lexeme.Precedes] using precedes

/-- Stripping a layout with comments and last commas leaves a plain one, of the lexemes as they are
    left. -/
theorem plain_strip (apart : lexemes.IsChain Lexeme.Precedes) (commented : Commented lexemes t) :
    Plain (lexemes.map Lexeme.bare) (strip t) :=
  plain_stripLastCommas apart (loose_stripComments commented)

/-- Every text that denotes a value is a plain layout of lexemes. However comments and last commas
    are put into it, stripping leaves a plain layout of the same lexemes, which denotes the same,
    exactly if no text among them has a comma before a closing mark. -/
theorem parse_strip_iff (s : Text) :
    (∀ v, parse s = .ok v → ∃ lexemes : List Lexeme, lexemes.IsChain Lexeme.Precedes ∧
      Plain lexemes s ∧ Commented lexemes s) ∧
    ∀ lexemes : List Lexeme, lexemes.IsChain Lexeme.Precedes → Plain lexemes s →
      ∀ t, Commented lexemes t →
        ((∀ l ∈ lexemes, ¬ l.IsSpoiled) → Plain lexemes (strip t) ∧ parse (strip t) = parse s) ∧
        ∀ v, parse s = .ok v → (parse (strip t) = .ok v ↔ ∀ l ∈ lexemes, ¬ l.IsSpoiled) := by
  constructor
  · intro v read
    obtain ⟨lexemes, apart, plain⟩ := exists_document read
    exact ⟨lexemes, apart, plain, commented_of_plain plain⟩
  · intro lexemes apart plain t commented
    have stripped := plain_strip apart commented
    have kept (clean : ∀ l ∈ lexemes, ¬ l.IsSpoiled) :
        Plain lexemes (strip t) ∧ parse (strip t) = parse s := by
      have same : lexemes.map Lexeme.bare = lexemes := by
        nth_rewrite 2 [← List.map_id lexemes]
        exact List.map_congr_left fun l member => Lexeme.bare_eq_self_iff.2 (clean l member)
      rw [same] at stripped
      exact ⟨stripped, by rw [parse_of_plain apart stripped, parse_of_plain apart plain]⟩
    refine ⟨kept, fun v read => ⟨fun readStripped => ?_, fun clean => ?_⟩⟩
    · have before := leaves_of_parse apart plain read
      have after := leaves_of_parse (apart_bare apart) stripped readStripped
      have same := bare_eq_self_of_valuesOf (after.symm.trans before)
      exact fun l member => Lexeme.bare_eq_self_iff.1 (same l member)
    · rw [(kept clean).2, read]

/-- The lexemes of a mapping from one alias, in which a comment seems to begin, to an empty list. -/
def aliasLexemes : List Lexeme :=
  [.mark '\x7b' rfl, .text [.plain '~' rfl, .plain '/' rfl, .plain '*' rfl], .mark ':' rfl,
   .mark '[' rfl, .mark ']' rfl, .mark '\x7d' rfl]

/-- A plain layout of the mapping. -/
def aliasText : Text := "\x7b\"~/*\": []\x7d"

/-- The mapping with comments and a last comma. -/
def aliasWithComments : Text := "// \"\n\x7b\"~/*\": [] /* \x7d */, // last\n\x7d"

theorem alias_strip :
    parse aliasText = .ok (.mapping [(.text "~/*", .list [])]) ∧
    aliasLexemes.IsChain Lexeme.Precedes ∧ Plain aliasLexemes aliasText ∧
    Commented aliasLexemes aliasWithComments ∧ (∀ l ∈ aliasLexemes, ¬ l.IsSpoiled) ∧
    Plain aliasLexemes (strip aliasWithComments) ∧
    parse (strip aliasWithComments) = .ok (.mapping [(.text "~/*", .list [])]) := by
  have cut : tokens aliasText = [.openBrace, .text (.text "~/*"), .colon, .openBracket,
      .closeBracket, .closeBrace] := rfl
  have read : parse aliasText = .ok (.mapping [(.text "~/*", .list [])]) := by
    unfold parse
    rw [cut]
    simp only [ofTokens, takeValue, nestingLimit]
    rfl
  have apart : aliasLexemes.IsChain Lexeme.Precedes := by
    unfold aliasLexemes
    simp [Lexeme.Precedes, Lexeme.isComma, Lexeme.closes, Lexeme.isWord]
  have plain : Plain aliasLexemes aliasText := by
    have none : IsBlanks [] := by simp [IsBlanks]
    have blank : IsBlanks [' '] := by simp [IsBlanks, isBlank]
    exact .next none <| .next none <| .next none <| .next blank <| .next none <| .next none <|
      .done none
  have commented : Commented aliasLexemes aliasWithComments := by
    have front : Gap "// \"\n".toList := .line " \"" (by decide) .nil
    have blank : Gap [' '] := .blank rfl .nil
    have inner : Gap " /* \x7d */".toList :=
      .blank rfl (.block " \x7d " (by decide) .nil)
    have last : Gap " // last\n".toList :=
      .blank rfl (.line " last" (by decide) .nil)
    have closing : Commented [.mark '\x7d' rfl] " /* \x7d */, // last\n\x7d".toList :=
      .lastComma trivial rfl inner last (.done (.closed .nil))
    have list : Commented [.mark '[' rfl, .mark ']' rfl, .mark '\x7d' rfl]
        " [] /* \x7d */, // last\n\x7d".toList :=
      .next blank (.next .nil closing)
    exact .next front <| .next .nil <| .next .nil list
  have clean : ∀ l ∈ aliasLexemes, ¬ l.IsSpoiled := by
    have same : aliasLexemes.map Lexeme.bare = aliasLexemes := rfl
    nth_rewrite 2 [← List.map_id aliasLexemes] at same
    exact fun l member => Lexeme.bare_eq_self_iff.1 (List.map_inj_left.1 same l member)
  obtain ⟨-, stripped⟩ := parse_strip_iff aliasText
  obtain ⟨kept, same⟩ := stripped aliasLexemes apart plain aliasWithComments commented
  exact ⟨read, apart, plain, commented, clean, (kept clean).1, (same _ read).2 clean⟩

/-- A text of a comma and a bracket loses its comma. -/
theorem commaText_spoiled :
    parse "[\",]\"]" = .ok (.list [.text ",]"]) ∧
    parse (strip "[\",]\"]") = .ok (.list [.text "]"]) ∧
    parse (strip "[\",]\"]") ≠ parse "[\",]\"]" := by
  have cut : tokens "[\",]\"]" = [.openBracket, .text (.text ",]"), .closeBracket] := rfl
  have cutStripped : tokens (strip "[\",]\"]") =
      [.openBracket, .text (.text "]"), .closeBracket] := rfl
  have single (t : Text) : ofTokens [.openBracket, .text (.text t), .closeBracket] =
      .ok (.list [.text t]) := by
    simp only [ofTokens, takeValue, nestingLimit]
    rfl
  have read : parse "[\",]\"]" = .ok (.list [.text ",]"]) := by
    unfold parse
    rw [cut, single]
  have readStripped : parse (strip "[\",]\"]") = .ok (.list [.text "]"]) := by
    unfold parse
    rw [cutStripped, single]
  refine ⟨read, readStripped, fun same => ?_⟩
  rw [read, readStripped] at same
  simp at same

end Groundwork.Json
