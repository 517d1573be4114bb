import Groundwork.Proofs.Schema.Call
import Groundwork.Proofs.Text.Span

/-!
# Statements of a schema file

How the opening of a table's block and the export of an enum may be written
(`afterTableHeader?_eq_some_iff`, `afterEnumExport?_eq_some_iff`). Both end on their own: what is
recognised at a place stays the same when further exports follow on a new line (`StandsAlone`).
-/

namespace Groundwork.Schema

open Text

theorem afterQuote?_eq_some_iff {s rest : Text} :
    afterQuote? s = some rest ↔ ∃ quote, isQuote quote = true ∧ s = quote :: rest := by
  cases s with
  | nil => simp [afterQuote?]
  | cons c s =>
    unfold afterQuote?
    by_cases quote : isQuote c = true
    · simp [quote]
    · simp [quote]

theorem not_isBlank_of_isQuote {c : Char} (quote : isQuote c = true) : isBlank c = false := by
  simp only [isQuote, Bool.or_eq_true, decide_eq_true_eq] at quote
  rcases quote with rfl | rfl <;> decide

/-- The name of a table is quoted, after blanks. -/
theorem afterTableName?_eq_some_iff {table s rest : Text} :
    afterTableName? table s = some rest ↔
      ∃ indent opening closing, indent.all isBlank = true ∧ isQuote opening = true ∧
        isQuote closing = true ∧ s = indent ++ opening :: (table ++ closing :: rest) := by
  simp only [afterTableName?, Option.bind_eq_bind, Option.bind_eq_some_iff,
    afterQuote?_eq_some_iff, after?_eq_some_iff]
  constructor
  · rintro ⟨_, ⟨opening, opens, after⟩, _, rfl, closing, closes, rfl⟩
    obtain ⟨indent, rfl, blank, -⟩ := dropBlanks_eq_iff.1 after
    exact ⟨indent, opening, closing, blank, opens, closes, rfl⟩
  · rintro ⟨indent, opening, closing, blank, opens, closes, rfl⟩
    refine ⟨_, ⟨opening, opens, dropBlanks_eq_iff.2 ⟨indent, rfl, blank, ?_⟩⟩, _, rfl, closing,
      closes, rfl⟩
    simp [not_isBlank_of_isQuote opens]

theorem afterWord?_eq_some_iff {s rest : Text} :
    afterWord? s = some rest ↔
      ∃ word, word ≠ [] ∧ word.all isWord = true ∧ Stops isWord rest ∧ s = word ++ rest := by
  unfold afterWord?
  constructor
  · intro found
    split at found
    · simp at found
    · next word other nonempty run =>
      obtain ⟨rfl, letters, stops⟩ := span_eq_iff.1 run
      obtain rfl : other = rest := by simpa using found
      exact ⟨word, nonempty, letters, stops, rfl⟩
  · rintro ⟨word, nonempty, letters, stops, rfl⟩
    have run : spanWord (word ++ rest) = (word, rest) := span_eq_iff.2 ⟨rfl, letters, stops⟩
    rw [run]
    cases word with
    | nil => exact absurd rfl nonempty
    | cons c word => rfl

/-- The opening of a table's block, less the table's name. -/
structure TableHeader where
  /-- The name under which the table is exported. -/
  word : Text
  gap : Text
  space : Text
  builder : Text
  indent : Text
  opening : Char
  closing : Char
  word_nonempty : word ≠ []
  word_letters : word.all isWord = true
  gap_blank : gap.all isBlank = true
  space_blank : space.all isBlank = true
  builder_letters : builder.all isWord = true
  builder_table : isTableWord builder = true
  indent_blank : indent.all isBlank = true
  opening_quote : isQuote opening = true
  closing_quote : isQuote closing = true

/-- The opening of the block of a table. -/
def TableHeader.text (h : TableHeader) (table : Text) : Text :=
  "export const " ++ (h.word ++ (h.gap ++ '=' :: (h.space ++ (h.builder ++
    '(' :: (h.indent ++ h.opening :: (table ++ [h.closing]))))))

theorem TableHeader.builder_nonempty (h : TableHeader) : h.builder ≠ [] := by
  intro empty
  obtain ⟨stem, nonempty, same⟩ := hasStem_iff.1 h.builder_table
  rw [empty] at same
  exact nonempty (List.append_eq_nil_iff.1 same.symm).1

/-- A word after blanks ends them. -/
theorem stops_isBlank_of_word {word rest : Text} (nonempty : word ≠ [])
    (letters : word.all isWord = true) : Stops isBlank (word ++ rest) := by
  cases word with
  | nil => exact absurd rfl nonempty
  | cons c word =>
    rw [List.cons_append, stops_cons, ← Bool.not_eq_true]
    intro blank
    simp [not_isWord_of_isBlank blank] at letters

/-- Blanks after a word end it. -/
theorem stops_isWord_of_blanks {gap rest : Text} (blank : gap.all isBlank = true)
    (stops : Stops isWord rest) : Stops isWord (gap ++ rest) :=
  stops.after_run blank fun _ => not_isWord_of_isBlank

theorem TableHeader.text_append (h : TableHeader) (table rest : Text) :
    h.text table ++ rest = "export const " ++ (h.word ++ (h.gap ++ ("=" ++ (h.space ++ (h.builder ++
      ("(" ++ (h.indent ++ h.opening :: (table ++ h.closing :: rest)))))))) := by
  unfold text
  simp

/-- What was cut off as the opening of a table's block is such an opening. -/
theorem exists_tableHeader {table s rest : Text} (opens : afterTableHeader? table s = some rest) :
    ∃ h : TableHeader, s = h.text table ++ rest := by
  unfold afterTableHeader? at opens
  simp only [Option.bind_eq_bind, Option.bind_eq_some_iff, after?_eq_some_iff,
    afterWord?_eq_some_iff] at opens
  obtain ⟨_, rfl, _, ⟨word, nonempty, letters, -, rfl⟩, afterEquals, equals, found⟩ := opens
  obtain ⟨gap, rfl, gapBlank, -⟩ := dropBlanks_eq_iff.1 equals
  obtain ⟨space, same, spaceBlank, -⟩ := dropBlanks_eq_iff.1 (rfl : dropBlanks afterEquals = _)
  rcases run : spanWord (dropBlanks afterEquals) with ⟨builder, afterBuilder⟩
  obtain ⟨cut, builderLetters, -⟩ := span_eq_iff.1 run
  rw [cut] at same
  subst same
  rw [run] at found
  have opened : (if isTableWord builder = true then (after? "(" afterBuilder).bind
      fun s => afterTableName? table s else none) = some rest := found
  split at opened
  · next stem =>
    obtain ⟨_, paren, named⟩ := Option.bind_eq_some_iff.1 opened
    obtain rfl := after?_eq_some_iff.1 paren
    obtain ⟨indent, opening, closing, indentBlank, opens, closes, rfl⟩ :=
      afterTableName?_eq_some_iff.1 named
    refine ⟨⟨word, gap, space, builder, indent, opening, closing, nonempty, letters, gapBlank,
      spaceBlank, builderLetters, stem, indentBlank, opens, closes⟩, ?_⟩
    rw [TableHeader.text_append]
  · cases opened

/-- The opening of a table's block is cut off, whatever follows it. -/
theorem TableHeader.opens (h : TableHeader) (table rest : Text) :
    afterTableHeader? table (h.text table ++ rest) = some rest := by
  unfold afterTableHeader?
  simp only [Option.bind_eq_bind, Option.bind_eq_some_iff, after?_eq_some_iff,
    afterWord?_eq_some_iff]
  rw [h.text_append]
  have opened : (if isTableWord h.builder = true then (after? "(" ("(" ++ (h.indent ++
      h.opening :: (table ++ h.closing :: rest)))).bind fun s => afterTableName? table s
      else none) = some rest := by
    rw [if_pos h.builder_table, after?_eq_some_iff.2 rfl, Option.bind_some,
      afterTableName?_eq_some_iff]
    exact ⟨h.indent, h.opening, h.closing, h.indent_blank, h.opening_quote, h.closing_quote, rfl⟩
  have paren : Stops isWord ("(" ++ (h.indent ++ h.opening :: (table ++ h.closing :: rest))) :=
    (stops_cons _ _ _).2 (by decide)
  revert opened paren
  generalize ("(" ++ (h.indent ++ h.opening :: (table ++ h.closing :: rest)) : Text) = call
  intro opened paren
  have equals : dropBlanks (h.gap ++ ("=" ++ (h.space ++ (h.builder ++ call)))) =
      "=" ++ (h.space ++ (h.builder ++ call)) :=
    dropBlanks_eq_iff.2 ⟨h.gap, rfl, h.gap_blank, (stops_cons _ _ _).2 (by decide)⟩
  have builder : dropBlanks (h.space ++ (h.builder ++ call)) = h.builder ++ call :=
    dropBlanks_eq_iff.2 ⟨h.space, rfl, h.space_blank,
      stops_isBlank_of_word h.builder_nonempty h.builder_letters⟩
  have run : spanWord (h.builder ++ call) = (h.builder, call) :=
    span_eq_iff.2 ⟨rfl, h.builder_letters, paren⟩
  refine ⟨_, rfl, _, ⟨h.word, h.word_nonempty, h.word_letters, ?_, rfl⟩, _, equals, ?_⟩
  · exact stops_isWord_of_blanks h.gap_blank ((stops_cons _ _ _).2 (by decide))
  · rw [builder, run]
    exact opened

/-- What is recognised as the opening of a table's block. -/
theorem afterTableHeader?_eq_some_iff {table s rest : Text} :
    afterTableHeader? table s = some rest ↔ ∃ h : TableHeader, s = h.text table ++ rest := by
  constructor
  · exact exists_tableHeader
  · rintro ⟨h, rfl⟩
    exact h.opens table rest

/-- How an export that calls a builder can be read as the opening of a table's block. -/
theorem TableHeader.parts (h : TableHeader) {word builder s table rest : Text}
    (letters : word.all isWord = true) (nonempty : builder ≠ [])
    (builderLetters : builder.all isWord = true)
    (same : "export const " ++ (word ++ (" = " ++ (builder ++ ("(" ++ s)))) =
      h.text table ++ rest) :
    builder = h.builder ∧ s = h.indent ++ h.opening :: (table ++ h.closing :: rest) := by
  rw [h.text_append] at same
  have equals : Stops isWord ("=" ++ (h.space ++ (h.builder ++ ("(" ++ (h.indent ++ h.opening ::
      (table ++ h.closing :: rest)))))) := (stops_cons _ _ _).2 (by decide)
  obtain ⟨-, afterName⟩ := run_unique (List.append_cancel_left same) letters
    ((stops_cons _ _ _).2 (by decide)) h.word_letters (stops_isWord_of_blanks h.gap_blank equals)
  obtain ⟨-, afterGap⟩ := run_unique (p := isBlank) (a := " ")
    (s := "= " ++ (builder ++ ("(" ++ s))) afterName (by decide)
    ((stops_cons _ _ _).2 (by decide)) h.gap_blank ((stops_cons _ _ _).2 (by decide))
  have afterEquals := List.append_cancel_left (show ("=" : Text) ++ _ = "=" ++ _ from afterGap)
  obtain ⟨-, afterSpace⟩ := run_unique (p := isBlank) (a := " ") (s := builder ++ ("(" ++ s))
    afterEquals (by decide)
    (stops_isBlank_of_word nonempty builderLetters) h.space_blank
    (stops_isBlank_of_word h.builder_nonempty h.builder_letters)
  obtain ⟨builder, paren⟩ := run_unique afterSpace builderLetters
    ((stops_cons _ _ _).2 (by decide)) h.builder_letters ((stops_cons _ _ _).2 (by decide))
  exact ⟨builder, List.append_cancel_left paren⟩

/-- The opening of a table's block ends before an export on a new line. -/
theorem TableHeader.cut (h : TableHeader) {table x t rest : Text} (noFeed : '\n' ∉ table)
    (same : x ++ '\n' :: ("export " ++ t) = h.text table ++ rest) :
    ∃ y, x = h.text table ++ y ∧ rest = y ++ '\n' :: ("export " ++ t) := by
  have stops : Stops isBlank ("export " ++ t) := (stops_cons _ _ _).2 (by decide)
  rw [h.text_append] at same
  obtain ⟨_, rfl, atWord⟩ := cut_before (by simp) same
  obtain ⟨_, rfl, atGap⟩ := cut_before (not_mem_feed_of_all_isWord h.word_letters) atWord.symm
  rcases cut_feed_blanks h.gap_blank stops atGap.symm with ⟨_, rfl, atEquals⟩ | reached
  · obtain ⟨_, rfl, atSpace⟩ := cut_before (by simp) atEquals.symm
    rcases cut_feed_blanks h.space_blank stops atSpace.symm with ⟨_, rfl, atBuilder⟩ | reached
    · obtain ⟨_, rfl, atParen⟩ :=
        cut_before (not_mem_feed_of_all_isWord h.builder_letters) atBuilder.symm
      obtain ⟨_, rfl, atIndent⟩ := cut_before (by simp) atParen.symm
      rcases cut_feed_blanks h.indent_blank stops atIndent.symm with ⟨_, rfl, atName⟩ | reached
      · have quotes : '\n' ∉ h.opening :: (table ++ [h.closing]) := by
          have first : h.opening ≠ '\n' := fun feed =>
            absurd h.opening_quote (by rw [feed]; decide)
          have last : h.closing ≠ '\n' := fun feed =>
            absurd h.closing_quote (by rw [feed]; decide)
          simp [first.symm, last.symm, noFeed]
        obtain ⟨y, rfl, found⟩ := cut_before (s := rest) quotes (by simpa using atName.symm)
        refine ⟨y, ?_, found⟩
        unfold text
        simp
      · have first := h.opening_quote
        rw [show h.opening = 'e' from (List.cons.inj reached).1] at first
        exact absurd first (by decide)
    · -- the first word of the export is not called
      obtain ⟨-, paren⟩ := run_unique (p := isWord) (b := "export") (t := " " ++ t) reached
        h.builder_letters ((stops_cons _ _ _).2 (by decide)) (by decide)
        ((stops_cons _ _ _).2 (by decide))
      simp at paren
  · simp at reached

/-! ## Exports of enums -/

/-- An export of an enum, less the enum's name, up to the end of its line. -/
structure EnumExport where
  gap : Text
  space : Text
  /-- What stands between the opening parenthesis and the line feed. -/
  line : Text
  gap_blank : gap.all isBlank = true
  space_blank : space.all isBlank = true
  line_noFeed : '\n' ∉ line
  line_closed : endsWith ");" (line.reverse.dropWhile isSpaceOrTab).reverse = true

/-- The export of the enum with this name, with its line feed. -/
def EnumExport.text (e : EnumExport) (name : Text) : Text :=
  "export const " ++ (name ++ (e.gap ++ '=' :: (e.space ++ ("pgEnum(" ++ (e.line ++ ['\n'])))))

theorem EnumExport.text_append (e : EnumExport) (name rest : Text) :
    e.text name ++ rest = "export const " ++ (name ++ (e.gap ++ ("=" ++ (e.space ++ ("pgEnum(" ++
      (e.line ++ '\n' :: rest)))))) := by
  unfold text
  simp

/-- What is recognised as an export of an enum. -/
theorem afterEnumExport?_eq_some_iff {name s rest : Text} {before : Option Char} :
    afterEnumExport? name before s = some rest ↔ beginsLine before = true ∧
      ∃ (e : EnumExport) (tail : Text), s = e.text name ++ tail ∧ rest = dropEmptyLine tail := by
  unfold afterEnumExport?
  cases begins : beginsLine before with
  | false => simp
  | true =>
    simp only [Bool.not_true, Bool.false_eq_true, if_false, Option.bind_eq_bind,
      Option.bind_eq_some_iff, after?_eq_some_iff, true_and]
    constructor
    · rintro ⟨_, rfl, _, rfl, afterEquals, equals, afterParen, paren, found⟩
      obtain ⟨gap, rfl, gapBlank, -⟩ := dropBlanks_eq_iff.1 equals
      obtain ⟨space, rfl, spaceBlank, -⟩ := dropBlanks_eq_iff.1 paren
      split at found
      · cases found
      · next line c tail run =>
        obtain rfl : c = '\n' := by simpa using (span_eq_iff.1 run).2.2
        obtain ⟨rfl, noFeed⟩ := span_ne_eq_iff.1 run
        split at found
        · next closed =>
          refine ⟨⟨gap, space, line, gapBlank, spaceBlank, noFeed, closed⟩, tail, ?_, ?_⟩
          · rw [EnumExport.text_append]
          · simpa using found.symm
        · cases found
    · rintro ⟨e, tail, rfl, rfl⟩
      rw [e.text_append]
      refine ⟨_, rfl, _, rfl, e.space ++ ("pgEnum(" ++ (e.line ++ '\n' :: tail)), ?_,
        e.line ++ '\n' :: tail, ?_, ?_⟩
      · exact dropBlanks_eq_iff.2 ⟨e.gap, rfl, e.gap_blank, (stops_cons _ _ _).2 (by decide)⟩
      · exact dropBlanks_eq_iff.2 ⟨e.space, rfl, e.space_blank, (stops_cons _ _ _).2 (by decide)⟩
      · simp only [span_ne_eq_iff.2 ⟨rfl, e.line_noFeed⟩, e.line_closed, if_true]

/-- How an export that calls a builder can be read as the export of an enum. -/
theorem EnumExport.parts (e : EnumExport) {word builder s name tail : Text}
    (letters : word.all isWord = true) (nonempty : builder ≠ [])
    (builderLetters : builder.all isWord = true) (nameLetters : name.all isWord = true)
    (same : "export const " ++ (word ++ (" = " ++ (builder ++ ("(" ++ s)))) =
      e.text name ++ tail) :
    word = name ∧ builder = "pgEnum" := by
  rw [e.text_append] at same
  have equals : Stops isWord ("=" ++ (e.space ++ ("pgEnum(" ++ (e.line ++ '\n' :: tail)))) :=
    (stops_cons _ _ _).2 (by decide)
  obtain ⟨named, afterName⟩ := run_unique (List.append_cancel_left same) letters
    ((stops_cons _ _ _).2 (by decide)) nameLetters (stops_isWord_of_blanks e.gap_blank equals)
  obtain ⟨-, afterGap⟩ := run_unique (p := isBlank) (a := " ")
    (s := "= " ++ (builder ++ ("(" ++ s))) afterName (by decide)
    ((stops_cons _ _ _).2 (by decide)) e.gap_blank ((stops_cons _ _ _).2 (by decide))
  have afterEquals := List.append_cancel_left (show ("=" : Text) ++ _ = "=" ++ _ from afterGap)
  obtain ⟨-, afterSpace⟩ := run_unique (p := isBlank) (a := " ") (s := builder ++ ("(" ++ s))
    afterEquals (by decide)
    (stops_isBlank_of_word nonempty builderLetters) e.space_blank ((stops_cons _ _ _).2 (by decide))
  obtain ⟨builder, -⟩ := run_unique (p := isWord) (b := "pgEnum")
    (t := "(" ++ (e.line ++ '\n' :: tail)) afterSpace builderLetters
    ((stops_cons _ _ _).2 (by decide)) (by decide) ((stops_cons _ _ _).2 (by decide))
  exact ⟨named, builder⟩

/-- The export of an enum ends before an export on a new line. -/
theorem EnumExport.cut (e : EnumExport) {name x t tail : Text} (noFeed : '\n' ∉ name)
    (same : x ++ '\n' :: ("export " ++ t) = e.text name ++ tail) :
    ∃ y, x ++ ['\n'] = e.text name ++ y ∧ tail = y ++ ("export " ++ t) ∧
      (y = [] ∨ ∃ z, y = z ++ ['\n']) := by
  have stops : Stops isBlank ("export " ++ t) := (stops_cons _ _ _).2 (by decide)
  rw [e.text_append] at same
  obtain ⟨_, rfl, atName⟩ := cut_before (by simp) same
  obtain ⟨_, rfl, atGap⟩ := cut_before noFeed atName.symm
  rcases cut_feed_blanks e.gap_blank stops atGap.symm with ⟨_, rfl, atEquals⟩ | reached
  · obtain ⟨_, rfl, atSpace⟩ := cut_before (by simp) atEquals.symm
    rcases cut_feed_blanks e.space_blank stops atSpace.symm with ⟨_, rfl, atBuilder⟩ | reached
    · obtain ⟨_, rfl, atLine⟩ := cut_before (by simp) atBuilder.symm
      obtain ⟨y, rfl, atEnd⟩ := cut_before e.line_noFeed atLine.symm
      cases y with
      | nil =>
        refine ⟨[], ?_, by simpa using atEnd, .inl rfl⟩
        unfold text
        simp
      | cons c y =>
        obtain ⟨rfl, rest⟩ := List.cons.inj atEnd
        refine ⟨y ++ ['\n'], ?_, by simpa using rest, .inr ⟨y, rfl⟩⟩
        unfold text
        simp
    · simp at reached
  · simp at reached

theorem dropEmptyLine_export (t : Text) : dropEmptyLine ("export " ++ t) = "export " ++ t := by
  have run : ("export " ++ t : Text).dropWhile isSpaceOrTab = "export " ++ t :=
    dropWhile_eq_iff.2 ⟨[], rfl, rfl, (stops_cons _ _ _).2 (by decide)⟩
  unfold dropEmptyLine
  rw [run]
  rfl

/-- An empty line is dropped before a line feed that ends the text. -/
theorem dropEmptyLine_append (z s : Text) :
    dropEmptyLine (z ++ '\n' :: s) = dropEmptyLine (z ++ ['\n']) ++ s := by
  have run (u : Text) : (z ++ '\n' :: u).dropWhile isSpaceOrTab =
      z.dropWhile isSpaceOrTab ++ '\n' :: u := by
    rw [List.dropWhile_append]
    split
    · next blank =>
      rw [List.isEmpty_iff.1 blank]
      rfl
    · rfl
  unfold dropEmptyLine
  rw [run, run]
  cases next : z.dropWhile isSpaceOrTab with
  | nil => rfl
  | cons c rest =>
    by_cases feed : c = '\n'
    · subst feed
      simp
    · simp [feed]

/-! ## Blocks of tables -/

theorem stops_isSpaceOrTab_of_atLineEnd {s : Text} (ends : atLineEnd s = true) :
    Stops isSpaceOrTab s := by
  cases s with
  | nil => rfl
  | cons c s =>
    obtain rfl : c = '\n' := by simpa [atLineEnd] using ends
    exact (stops_cons _ _ _).2 (by decide)

/-- A line that closes the call of a table. -/
structure ClosingLine where
  bracket : Char
  parens : Text
  semicolon : Text
  blanks : Text
  bracket_closes : bracket = '\x7d' ∨ bracket = ']'
  parens_nonempty : parens ≠ []
  parens_close : parens.all (· = ')') = true
  semicolon_single : semicolon = [] ∨ semicolon = [';']
  blanks_blank : blanks.all isSpaceOrTab = true

/-- The line without its line feed. -/
def ClosingLine.text (c : ClosingLine) : Text :=
  c.bracket :: (c.parens ++ (c.semicolon ++ c.blanks))

/-- The blanks at the end of a line begin with neither a semicolon nor a parenthesis. -/
theorem ClosingLine.blanks_head (c : ClosingLine) {rest : Text} (ends : atLineEnd rest = true) :
    (c.blanks ++ rest).head? ≠ some ';' ∧ Stops (· = ')') (c.blanks ++ rest) := by
  cases given : c.blanks with
  | nil =>
    cases rest with
    | nil => exact ⟨by simp, rfl⟩
    | cons d rest =>
      obtain rfl : d = '\n' := by simpa [atLineEnd] using ends
      exact ⟨by simp, (stops_cons _ _ _).2 rfl⟩
  | cons d blanks =>
    have blank := c.blanks_blank
    rw [given, List.all_cons, Bool.and_eq_true] at blank
    simp only [isSpaceOrTab, Bool.or_eq_true, decide_eq_true_eq] at blank
    rcases blank.1 with rfl | rfl
    · exact ⟨by simp, (stops_cons _ _ _).2 rfl⟩
    · exact ⟨by simp, (stops_cons _ _ _).2 rfl⟩

/-- What was cut off as the line that closes a block is such a line. -/
theorem exists_closingLine {before : Option Char} {s line rest : Text}
    (closes : closingLine? before s = some (line, rest)) : beginsLine before = true ∧
      ∃ c : ClosingLine, line = c.text ∧ s = c.text ++ rest ∧ atLineEnd rest = true := by
  unfold closingLine? at closes
  split at closes
  · cases closes
  next begins =>
  refine ⟨by simpa using begins, ?_⟩
  split at closes
  · cases closes
  next c s =>
  split at closes
  swap
  · cases closes
  next bracket =>
  split at closes
  · cases closes
  next parens after nonempty run =>
  obtain ⟨rfl, close, -⟩ := span_eq_iff.1 run
  split at closes
  next semicolon tail same =>
  have cut : after = semicolon ++ tail ∧ (semicolon = [] ∨ semicolon = [';']) := by
    split at same
    · obtain ⟨rfl, rfl⟩ := Prod.mk.inj same
      exact ⟨rfl, .inr rfl⟩
    · obtain ⟨rfl, rfl⟩ := Prod.mk.inj same
      exact ⟨rfl, .inl rfl⟩
  obtain ⟨rfl, single⟩ := cut
  rcases blank : tail.span isSpaceOrTab with ⟨blanks, last⟩
  obtain ⟨rfl, all, -⟩ := span_eq_iff.1 blank
  rw [blank] at closes
  simp only [Option.ite_none_right_eq_some, Option.some.injEq, Prod.mk.injEq] at closes
  obtain ⟨ends, rfl, rfl⟩ := closes
  exact ⟨⟨c, parens, semicolon, blanks, by simpa using bracket, nonempty, close, single, all⟩,
    by simp [ClosingLine.text], by simp [ClosingLine.text], ends⟩

/-- The parentheses of a closing line end before its semicolon and its blanks. -/
theorem ClosingLine.span_parens (c : ClosingLine) {rest : Text} (ends : atLineEnd rest = true) :
    (c.parens ++ (c.semicolon ++ (c.blanks ++ rest))).span (· = ')') =
      (c.parens, c.semicolon ++ (c.blanks ++ rest)) := by
  refine span_eq_iff.2 ⟨rfl, c.parens_close, ?_⟩
  rcases c.semicolon_single with same | same
  · rw [same]
    exact (c.blanks_head ends).2
  · rw [same]
    exact (stops_cons _ _ _).2 rfl

/-- A closing line is cut off where a line begins. -/
theorem ClosingLine.closes (c : ClosingLine) {before : Option Char} {rest : Text}
    (begins : beginsLine before = true) (ends : atLineEnd rest = true) :
    closingLine? before (c.text ++ rest) = some (c.text, rest) := by
  have blanks : (c.blanks ++ rest).span isSpaceOrTab = (c.blanks, rest) :=
    span_eq_iff.2 ⟨rfl, c.blanks_blank, stops_isSpaceOrTab_of_atLineEnd ends⟩
  have bracket : c.bracket = '\x7d' ∨ c.bracket = ']' := c.bracket_closes
  unfold closingLine? ClosingLine.text
  simp only [begins, Bool.not_true, Bool.false_eq_true, if_false, List.cons_append,
    List.append_assoc, Bool.or_eq_true, decide_eq_true_eq, bracket, if_true, c.span_parens ends]
  cases nonempty : c.parens with
  | nil => exact absurd nonempty c.parens_nonempty
  | cons paren others =>
    rcases c.semicolon_single with same | same
    · have noSemicolon := (c.blanks_head ends).1
      rw [same, List.nil_append]
      revert blanks noSemicolon
      generalize c.blanks ++ rest = after
      intro blanks noSemicolon
      dsimp only
      split
      · simp at noSemicolon
      · rw [blanks]
        simp [ends]
    · rw [same]
      simp only [List.cons_append, List.nil_append]
      rw [blanks]
      simp [ends]

/-- What is recognised as the line that closes a block. -/
theorem closingLine?_eq_some_iff {before : Option Char} {s line rest : Text} :
    closingLine? before s = some (line, rest) ↔ beginsLine before = true ∧
      ∃ c : ClosingLine, line = c.text ∧ s = c.text ++ rest ∧ atLineEnd rest = true := by
  constructor
  · exact exists_closingLine
  · rintro ⟨begins, c, rfl, rfl, ends⟩
    exact c.closes begins ends

/-- What is recognised as a table's block: its opening, and lines up to the first one that closes
    it. -/
theorem tableBlockAt?_eq_some_iff {table s block rest : Text} {before : Option Char} :
    tableBlockAt? table before s = some (block, rest) ↔ beginsLine before = true ∧
      ∃ (h : TableHeader) (inside : Text) (c : ClosingLine),
        block = h.text table ++ (inside ++ '\n' :: c.text) ∧ s = block ++ rest ∧
          atLineEnd rest = true ∧
            FailsWithin closingLine? (some '"') (inside ++ ['\n']) (c.text ++ rest) := by
  unfold tableBlockAt?
  cases begins : beginsLine before with
  | false => simp
  | true =>
    simp only [Bool.not_true, Bool.false_eq_true, if_false, true_and, Option.bind_eq_bind,
      Option.bind_eq_some_iff, Option.pure_def, afterTableHeader?_eq_some_iff]
    have opening (h : TableHeader) (body : Text) : (h.text table ++ body).take
        ((h.text table ++ body).length - body.length) = h.text table := by
      rw [List.length_append, Nat.add_sub_cancel, List.take_left']
      rfl
    constructor
    · rintro ⟨body, ⟨h, rfl⟩, ⟨inside, line, last⟩, closes, same⟩
      obtain ⟨tail, rfl, fails, here⟩ := search_eq_some_iff.1 closes
      obtain ⟨atLine, c, rfl, rfl, ends⟩ := closingLine?_eq_some_iff.1 here
      rw [opening] at same
      obtain ⟨rfl, rfl⟩ := Prod.mk.inj (Option.some.inj same)
      -- a quotation mark precedes the body, so a line feed ends what stands before the last line
      rcases List.eq_nil_or_concat inside with rfl | ⟨inside, d, rfl⟩
      · cases atLine
      · rw [List.concat_eq_append] at atLine fails ⊢
        rw [charBefore_concat] at atLine
        obtain rfl : d = '\n' := by simpa [beginsLine] using atLine
        exact ⟨h, inside, c, by simp, by simp, ends, fails⟩
    · rintro ⟨h, inside, c, rfl, rfl, ends, fails⟩
      refine ⟨inside ++ '\n' :: (c.text ++ rest), ⟨h, by simp⟩, (inside ++ ['\n'], c.text, rest),
        ?_, ?_⟩
      · refine search_eq_some_iff.2 ⟨c.text ++ rest, by simp, fails, ?_⟩
        rw [charBefore_concat]
        exact c.closes rfl ends
      · have whole : h.text table ++ (inside ++ '\n' :: c.text) ++ rest =
            h.text table ++ (inside ++ '\n' :: (c.text ++ rest)) := by simp
        rw [whole, opening]
        simp

/-! ## Recognisers of exports -/

/-- The opening of a table's block at the start of a line. -/
def headerAt? (table : Text) (before : Option Char) (s : Text) : Option Text :=
  if beginsLine before then afterTableHeader? table s else none

/-- A recogniser of exports: it looks at lines that begin with `export`, and what it finds in lines
    stays the same when exports follow them. -/
structure RecognisesExports (recognise : Option Char → Text → Option Text) : Prop where
  lines : OfLines recognise
  first : ∀ before s found, recognise before s = some found → ∃ t, s = "export " ++ t
  alone : ∀ before x t, recognise before (x ++ '\n' :: ("export " ++ t)) =
    (recognise before (x ++ ['\n'])).map (· ++ ("export " ++ t))

theorem export_of_constant (s : Text) : ∃ t : Text, "export const " ++ s = "export " ++ t :=
  ⟨"const " ++ s, rfl⟩

theorem headerAt?_eq_some_iff {table s rest : Text} {before : Option Char} :
    headerAt? table before s = some rest ↔ beginsLine before = true ∧
      ∃ h : TableHeader, s = h.text table ++ rest := by
  unfold headerAt?
  rw [Option.ite_none_right_eq_some, afterTableHeader?_eq_some_iff]

theorem recognisesExports_headerAt? {table : Text} (noFeed : '\n' ∉ table) :
    RecognisesExports (headerAt? table) where
  lines before s inside := by simp [headerAt?, inside]
  first before s found here := by
    obtain ⟨-, h, rfl⟩ := headerAt?_eq_some_iff.1 here
    rw [h.text_append]
    exact export_of_constant _
  alone before x t := by
    unfold headerAt?
    cases beginsLine before with
    | false => rfl
    | true =>
      simp only [if_true]
      refine Option.ext fun rest => ?_
      simp only [Option.map_eq_some_iff, afterTableHeader?_eq_some_iff]
      constructor
      · rintro ⟨h, same⟩
        obtain ⟨y, rfl, rfl⟩ := h.cut noFeed same
        exact ⟨y ++ ['\n'], ⟨h, by simp⟩, by simp⟩
      · rintro ⟨y, ⟨h, same⟩, rfl⟩
        refine ⟨h, ?_⟩
        rw [← List.append_assoc, ← same]
        simp

/-- An empty line before an export is dropped or not, whatever the export is. -/
theorem dropEmptyLine_append_export {y : Text} (t : Text) (ends : y = [] ∨ ∃ z, y = z ++ ['\n']) :
    dropEmptyLine (y ++ ("export " ++ t)) = dropEmptyLine y ++ ("export " ++ t) := by
  rcases ends with rfl | ⟨z, rfl⟩
  · exact dropEmptyLine_export t
  · rw [← dropEmptyLine_append]
    simp

theorem ends_of_append {x y z : Text} (same : x ++ ['\n'] = y ++ z) :
    z = [] ∨ ∃ w, z = w ++ ['\n'] := by
  rcases List.eq_nil_or_concat z with rfl | ⟨w, c, rfl⟩
  · exact .inl rfl
  · rw [List.concat_eq_append, ← List.append_assoc] at same
    obtain ⟨-, last⟩ := List.append_inj' same rfl
    exact .inr ⟨w, by rw [List.concat_eq_append, last]⟩

theorem recognisesExports_afterEnumExport? {name : Text} (noFeed : '\n' ∉ name) :
    RecognisesExports (afterEnumExport? name) where
  lines before s inside := by simp [afterEnumExport?, inside]
  first before s found here := by
    obtain ⟨-, e, tail, rfl, -⟩ := afterEnumExport?_eq_some_iff.1 here
    rw [e.text_append]
    exact export_of_constant _
  alone before x t := by
    refine Option.ext fun rest => ?_
    simp only [Option.map_eq_some_iff, afterEnumExport?_eq_some_iff]
    constructor
    · rintro ⟨begins, e, tail, same, rfl⟩
      obtain ⟨y, cut, rfl, ends⟩ := e.cut noFeed same
      exact ⟨dropEmptyLine y, ⟨begins, e, y, cut, rfl⟩, (dropEmptyLine_append_export t ends).symm⟩
    · rintro ⟨_, ⟨begins, e, tail, same, rfl⟩, rfl⟩
      refine ⟨begins, e, tail ++ ("export " ++ t), ?_,
        (dropEmptyLine_append_export t (ends_of_append same)).symm⟩
      rw [← List.append_assoc, ← same]
      simp

/-! ## Text without an export -/

variable {recognise : Option Char → Text → Option Text}

/-- The recogniser finds nothing in the text. -/
def Free (recognise : Option Char → Text → Option Text) (p : Text) : Prop :=
  FailsWithin recognise none p []

/-- The recogniser finds nothing in the text, wherever the text stands. -/
def Inert (recognise : Option Char → Text → Option Text) (p : Text) : Prop :=
  ∀ before t, FailsWithin recognise before p t

theorem inert_nil (recognise : Option Char → Text → Option Text) : Inert recognise [] :=
  fun _ _ => failsWithin_nil _ _

theorem Inert.append {p q : Text} (first : Inert recognise p) (second : Inert recognise q) :
    Inert recognise (p ++ q) :=
  fun _ _ => failsWithin_append.2 ⟨first _ _, second _ _⟩

theorem Inert.flatMap {α : Type} {l : List α} {text : α → Text}
    (inert : ∀ a ∈ l, Inert recognise (text a)) : Inert recognise (l.flatMap text) := by
  induction l with
  | nil => exact inert_nil recognise
  | cons a l ih =>
    rw [List.flatMap_cons]
    exact (inert a (by simp)).append (ih fun b member => inert b (List.mem_cons_of_mem _ member))

/-- The text is empty or begins with an export. -/
def Exports (s : Text) : Prop := s = [] ∨ ∃ t, s = "export " ++ t

namespace RecognisesExports

theorem eq_none (exports : RecognisesExports recognise) {c : Char} (other : c ≠ 'e')
    (before : Option Char) (s : Text) : recognise before (c :: s) = none := by
  rw [Option.eq_none_iff_forall_ne_some]
  intro found here
  obtain ⟨t, same⟩ := exports.first _ _ _ here
  exact other (List.cons.inj same).1

theorem eq_none_nil (exports : RecognisesExports recognise) (before : Option Char) :
    recognise before [] = none := by
  rw [Option.eq_none_iff_forall_ne_some]
  intro found here
  obtain ⟨t, same⟩ := exports.first _ _ _ here
  cases same

/-- Where nothing is found in lines, nothing is found in them before exports. -/
theorem failsWithin (exports : RecognisesExports recognise) {p s : Text}
    (begins : beginsLine (charBefore none p) = true) (free : Free recognise p)
    (follows : Exports s) : FailsWithin recognise none p s := by
  rcases follows with rfl | ⟨t, rfl⟩
  · exact free
  · intro a b cut nonempty
    have here := free a b cut nonempty
    obtain ⟨b, last, rfl⟩ := (List.eq_nil_or_concat b).resolve_left nonempty
    have feed : last = '\n' := by
      rw [cut, List.concat_eq_append, ← List.append_assoc, charBefore_concat] at begins
      simpa [beginsLine] using begins
    subst feed
    rw [List.concat_eq_append, List.append_nil] at here
    rw [List.concat_eq_append, List.append_assoc]
    exact (exports.alone _ b t).trans (by rw [here]; rfl)

/-- Lines in which nothing is found, with exports after them in which nothing is found. -/
theorem free_append (exports : RecognisesExports recognise) {p q : Text}
    (begins : beginsLine (charBefore none p) = true) (first : Free recognise p)
    (second : Inert recognise q) (follows : Exports q) : Free recognise (p ++ q) := by
  refine failsWithin_append.2 ⟨?_, second _ _⟩
  rw [List.append_nil]
  exact exports.failsWithin begins first follows

/-- What is found in lines is found as well before exports. -/
theorem search_append (exports : RecognisesExports recognise) {p t front back : Text}
    (begins : beginsLine (charBefore none p) = true)
    (found : search recognise none p = some (front, back)) :
    search recognise none (p ++ ("export " ++ t)) = some (front, back ++ ("export " ++ t)) := by
  obtain ⟨rest, rfl, fails, here⟩ := search_eq_some_iff.1 found
  rcases List.eq_nil_or_concat rest with rfl | ⟨rest, last, rfl⟩
  · rw [exports.eq_none_nil] at here
    cases here
  · have feed : last = '\n' := by
      rw [List.concat_eq_append, ← List.append_assoc, charBefore_concat] at begins
      simpa [beginsLine] using begins
    subst feed
    rw [List.concat_eq_append] at fails here ⊢
    refine search_eq_some_iff.2 ⟨rest ++ '\n' :: ("export " ++ t), by simp, ?_, ?_⟩
    · intro a b cut nonempty
      have before := fails a b cut nonempty
      rw [← List.append_assoc] at before ⊢
      rw [exports.alone, before]
      rfl
    · rw [exports.alone, here]
      rfl

/-- Nothing is found in a line at whose start nothing is. -/
theorem inert_line (exports : RecognisesExports recognise) {line : Text} (noFeed : '\n' ∉ line)
    (start : ∀ before t, recognise before (line ++ t) = none) : Inert recognise line :=
  fun before t => exports.lines.failsWithin_line noFeed fun _ => start before t

theorem inert_feed (exports : RecognisesExports recognise) : Inert recognise ['\n'] :=
  fun _ _ => failsWithin_cons.2 ⟨exports.eq_none (by decide) _ _, failsWithin_nil _ _⟩

end RecognisesExports

/-- A search for something that a text is free of fails. -/
theorem search_of_free (exports : RecognisesExports recognise) {p : Text}
    (free : Free recognise p) : search recognise none p = none := by
  have skipped := search_skip free
  rw [List.append_nil] at skipped
  rw [skipped]
  simp [search, exports.eq_none_nil]

end Groundwork.Schema
