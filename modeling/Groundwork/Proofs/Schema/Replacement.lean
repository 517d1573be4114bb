import Groundwork.Proofs.Schema.Landmark

/-!
# What a replacement keeps

Replacing a model in a file that was laid out by hand may take more than the model away. Another
table stays exactly if it is called in a part of the file that stays (`hasTable_replace_iff`), and
the same holds for the export of an enum (`hasLine_replace_iff`).
-/

namespace Groundwork.Schema

open Text

/-- The file without the exports of the enums that a table's block calls. -/
def withoutCalledEnums (content table : Text) : Text :=
  match TableSite.find? content table with
  | none => content
  | some site => (enumCalls site.block).foldl dropEnumExport content

/-- The file with a model's definitions in place of its block, before the imports are merged. -/
def swapped (content : Text) (names : ModelNames) (fields : List Field) (dialect : Dialect)
    (options : Options) : Text :=
  replaceBlock (withoutCalledEnums content names.table) names.table
    (definitions names fields dialect options)

/-- A model is replaced exactly where its block is found, by merging the imports into the file in
    which it is swapped. -/
theorem replace_eq_ok_iff {content result : Text} {names : ModelNames} {fields : List Field}
    {dialect : Dialect} {options : Options} :
    replace content names fields dialect options = .ok result ↔
      (TableSite.find? content names.table).isSome = true ∧
        result = mergeImports (swapped content names fields dialect options)
          (requiredImports fields dialect options) dialect := by
  unfold replace locate swap swapped withoutCalledEnums
  rw [bind_eq_ok_iff]
  cases found : TableSite.find? content names.table with
  | none => simp
  | some site =>
    simp only [Except.ok.injEq, Option.isSome_some, true_and, exists_eq_left']
    exact ⟨fun same => (Except.ok.inj same).symm, fun same => congrArg Except.ok same.symm⟩

/-! ## Tables -/

/-- The text may name a table: it stands on one line and holds no comma and no brace. -/
def isTableName (s : Text) : Bool :=
  s.all fun c => c ≠ '\n' && c ≠ ',' && c ≠ '\x7b' && c ≠ '\x7d'

/-- A call that makes a table, from the end of its builder's name to the table's name. -/
def IsTableCall (table w : Text) : Prop :=
  ∃ indent opening closing, indent.all isBlank = true ∧ isQuote opening = true ∧
    isQuote closing = true ∧ w = "Table(" ++ (indent ++ opening :: (table ++ [closing]))

theorem ne_of_isQuote {c d : Char} (quote : isQuote c = true) (other : isQuote d = false) :
    c ≠ d := by
  rintro rfl
  rw [other] at quote
  cases quote

theorem not_mem_of_isTableName {s : Text} (name : isTableName s = true) :
    '\n' ∉ s ∧ ',' ∉ s ∧ '\x7b' ∉ s ∧ '\x7d' ∉ s := by
  have all (c : Char) (member : c ∈ s) : c ≠ '\n' ∧ c ≠ ',' ∧ c ≠ '\x7b' ∧ c ≠ '\x7d' := by
    simpa [and_assoc] using List.all_eq_true.1 name c member
  exact ⟨fun member => (all _ member).1 rfl, fun member => (all _ member).2.1 rfl,
    fun member => (all _ member).2.2.1 rfl, fun member => (all _ member).2.2.2 rfl⟩

theorem not_mem_quoted {table : Text} {opening closing c : Char} (opens : isQuote opening = true)
    (closes : isQuote closing = true) (other : isQuote c = false) (absent : c ∉ table) :
    c ∉ opening :: (table ++ [closing]) := by
  simp [(ne_of_isQuote opens other).symm, (ne_of_isQuote closes other).symm, absent]

/-- Around a line feed in the call of a table stand blanks only, up to the parenthesis before it and
    the quotation mark after it. -/
theorem IsTableCall.feed {table a b : Text} (name : isTableName table = true)
    (call : IsTableCall table (a ++ '\n' :: b)) :
    (∃ blanks, blanks.all isBlank = true ∧ a = "Table(" ++ blanks) ∧
      ∃ blanks quote rest, blanks.all isBlank = true ∧ isQuote quote = true ∧
        b = blanks ++ quote :: rest := by
  obtain ⟨indent, opening, closing, blank, opens, closes, same⟩ := call
  have quotes := not_mem_quoted opens closes (c := '\n') (by decide) (not_mem_of_isTableName name).1
  obtain ⟨y, rfl, inner⟩ := cut_before (by decide) same
  rcases List.append_eq_append_iff.1 inner with ⟨e, rfl, tail⟩ | ⟨e, rfl, tail⟩
  · rw [tail] at quotes
    simp at quotes
  · rw [List.all_append, Bool.and_eq_true] at blank
    refine ⟨⟨y, blank.1, rfl⟩, ?_⟩
    cases e with
    | nil =>
      rw [List.nil_append] at tail
      rw [← tail] at quotes
      simp at quotes
    | cons c e =>
      obtain ⟨-, rfl⟩ := List.cons.inj tail
      rw [List.all_cons, Bool.and_eq_true] at blank
      exact ⟨e, opening, table ++ [closing], blank.2.2, opens, rfl⟩

/-- No other sign than the parenthesis stands in the call of a table outside of its name. -/
theorem IsTableCall.not_mem {table w : Text} (call : IsTableCall table w) {c : Char}
    (lead : c ∉ ("Table(" : Text)) (noBlank : isBlank c = false) (noQuote : isQuote c = false)
    (absent : c ∉ table) : c ∉ w := by
  obtain ⟨indent, opening, closing, blank, opens, closes, rfl⟩ := call
  have quoted := not_mem_quoted opens closes noQuote absent
  have inIndent : c ∉ indent := by
    intro member
    rw [List.all_eq_true.1 blank c member] at noBlank
    cases noBlank
  rw [List.mem_append, List.mem_append, not_or, not_or]
  exact ⟨lead, inIndent, quoted⟩

/-- The call of a table ends with a quotation mark. -/
theorem IsTableCall.isQuote_last {table w : Text} {c : Char} (call : IsTableCall table (w ++ [c])) :
    isQuote c = true := by
  obtain ⟨indent, opening, closing, -, -, closes, same⟩ := call
  have cut : w ++ [c] = ("Table(" ++ (indent ++ opening :: table)) ++ [closing] := by
    rw [same]
    simp
  rwa [List.singleton_inj.1 (List.append_inj' cut rfl).2]

/-- A table is called after a character of a word, by the rest of its builder and its name. -/
theorem tableCallAt?_isSome_iff {table s : Text} {before : Option Char} :
    (tableCallAt? table before s).isSome = true ↔
      before.any isWord = true ∧ ∃ w, IsTableCall table w ∧ w <+: s := by
  rw [Option.isSome_iff_exists]
  constructor
  · rintro ⟨⟨⟩, here⟩
    obtain ⟨word, rest, rfl, named⟩ := tableCallAt?_eq_some_iff.1 here
    obtain ⟨tail, named⟩ := Option.isSome_iff_exists.1 named
    obtain ⟨indent, opening, closing, blank, opens, closes, rfl⟩ :=
      afterTableName?_eq_some_iff.1 named
    refine ⟨word, _, ⟨indent, opening, closing, blank, opens, closes, rfl⟩, tail, ?_⟩
    simp
  · rintro ⟨word, w, ⟨indent, opening, closing, blank, opens, closes, rfl⟩, tail, rfl⟩
    refine ⟨(), tableCallAt?_eq_some_iff.2 ⟨word, indent ++ opening :: (table ++ closing :: tail),
      by simp, ?_⟩⟩
    rw [Option.isSome_iff_exists]
    exact ⟨tail, afterTableName?_eq_some_iff.2
      ⟨indent, opening, closing, blank, opens, closes, rfl⟩⟩

/-- The call of a table is a landmark. -/
theorem landmark_tableCallAt? {table : Text} (name : isTableName table = true) :
    Landmark (tableCallAt? table) (·.any isWord) (IsTableCall table) where
  spec _ _ := tableCallAt?_isSome_iff
  nonempty := by
    rintro w ⟨indent, opening, closing, -, -, -, rfl⟩
    simp
  noMark := by
    intro w call
    obtain ⟨-, comma, left, right⟩ := not_mem_of_isTableName name
    exact ⟨call.not_mem (by decide) (by decide) (by decide) comma,
      call.not_mem (by decide) (by decide) (by decide) left,
      call.not_mem (by decide) (by decide) (by decide) right⟩
  ends := by
    intro w c call
    have quote := call.isQuote_last
    simp only [isQuote, Bool.or_eq_true, decide_eq_true_eq] at quote
    rcases quote with rfl | rfl <;> decide
  noFeedAfter := by
    intro a b call
    rw [show a ++ ';' :: '\n' :: b = (a ++ [';']) ++ '\n' :: b by simp] at call
    obtain ⟨⟨blanks, blank, same⟩, -⟩ := call.feed name
    rcases List.eq_nil_or_concat blanks with rfl | ⟨blanks, c, rfl⟩
    · have cut : a ++ [';'] = "Table" ++ ['('] := by simpa using same
      exact absurd (List.singleton_inj.1 (List.append_inj' cut rfl).2) (by decide)
    · rw [List.concat_eq_append, ← List.append_assoc] at same
      obtain rfl := List.singleton_inj.1 (List.append_inj' same rfl).2
      simp at blank
      exact absurd blank.2 (by decide)
  noFeedBefore := by
    intro a b call
    obtain ⟨-, blanks, quote, rest, blank, isQuote, same⟩ := call.feed name
    cases blanks with
    | nil =>
      obtain ⟨rfl, -⟩ := List.cons.inj same
      exact absurd isQuote (by decide)
    | cons c blanks =>
      obtain ⟨rfl, -⟩ := List.cons.inj same
      rw [List.all_cons, Bool.and_eq_true] at blank
      exact absurd blank.1 (by decide)
  begins := by
    rintro before c w - ⟨indent, opening, closing, -, -, -, same⟩
    exact .inl (List.cons.inj same).1
  fits_feed := by decide

/-- It does not matter to a call of a table which character precedes the text, if it belongs to no
    word. -/
theorem search_tableCallAt? {table : Text} {before : Option Char}
    (noWord : before.any isWord = false) (s : Text) :
    (search (tableCallAt? table) before s).isSome = true ↔ hasTable s table = true := by
  unfold hasTable
  rw [search_isSome_iff, search_isSome_iff]
  refine exists_congr fun front => exists_congr fun rest => and_congr_right fun _ => ?_
  cases front with
  | nil =>
    have fails (other : Option Char) (ended : other.any isWord = false) :
        tableCallAt? table other rest = none := by
      simp [tableCallAt?, ended]
    rw [charBefore, charBefore, fails before noWord, fails none rfl]
  | cons c front => rfl

theorem noWord_of_mem_importParts {content : Text} {part : Option Char × Text}
    (member : part ∈ importParts content) : part.1.any isWord = false := by
  unfold importParts at member
  split at member
  · rw [List.mem_singleton.1 member]
    rfl
  · rcases List.mem_cons.1 member with rfl | member
    · rfl
    rcases List.mem_cons.1 member with rfl | member
    · exact (by decide : isWord ';' = false)
    · obtain ⟨symbol, -, rfl⟩ := List.mem_map.1 member
      exact (by decide : isWord ' ' = false)

/-- A table is kept exactly if it is called in a part of the file that the imports are merged
    around, and the file is made of the lines around the old block and the new definitions. -/
theorem hasTable_replace_iff {content result table : Text} {names : ModelNames}
    {fields : List Field} {dialect : Dialect} {options : Options}
    (replaced : replace content names fields dialect options = .ok result)
    (name : isTableName table = true) :
    (hasTable result table = true ↔
      ∃ part ∈ importParts (swapped content names fields dialect options),
        hasTable part.2 table = true) ∧
    (hasTable (swapped content names fields dialect options) table = true ↔
      ∃ part ∈ blockParts (withoutCalledEnums content names.table) names.table
        (definitions names fields dialect options), hasTable part table = true) := by
  have mark := landmark_tableCallAt? name
  refine ⟨?_, mark.search_replaceBlock _ _ (definitions_shape names fields dialect options)⟩
  rw [(replace_eq_ok_iff.1 replaced).2]
  refine (mark.search_mergeImports _
    (Catalogue.symbols_requiredImports fields dialect options) dialect).trans ?_
  refine exists_congr fun part => and_congr_right fun member => ?_
  exact search_tableCallAt? (noWord_of_mem_importParts member) part.2

/-- A file with the two tables `posts` and `users`; the first one is laid out as given. -/
def twoTables (posts : String) : Text :=
  Text.code "import ⟦ pgTable, serial, text ⟧ from \"drizzle-orm/pg-core\";\n\n" ++ Text.code posts
    ++ Text.code "\n\nexport const users = pgTable(\"users\", ⟦\n"
    ++ Text.code "  id: serial(\"id\").primaryKey(),\n⟧);\n"

/-- The table `posts` on one line. -/
def postsOnOneLine : String :=
  "export const posts = pgTable(\"posts\", ⟦ id: serial(\"id\").primaryKey() ⟧);"

/-- The table `posts` with a line of its own for the closing bracket. -/
def postsOnThreeLines : String :=
  "export const posts = pgTable(\"posts\", ⟦\n  id: serial(\"id\").primaryKey(),\n⟧);"

theorem replace_keeps_table :
    ∃ result, replace (twoTables postsOnThreeLines) (ModelNames.ofName "post") [] .postgresql {} =
      .ok result ∧ hasTable result "users" = true := by
  have found : (TableSite.find? (twoTables postsOnThreeLines)
      (ModelNames.ofName "post").table).isSome = true := by decide +kernel
  have parts : ((importParts (swapped (twoTables postsOnThreeLines) (ModelNames.ofName "post") []
      .postgresql {})).any fun part => hasTable part.2 "users") = true := by decide +kernel
  have replaced : replace (twoTables postsOnThreeLines) (ModelNames.ofName "post") [] .postgresql
      {} = .ok _ := replace_eq_ok_iff.2 ⟨found, rfl⟩
  exact ⟨_, replaced, (hasTable_replace_iff replaced (by decide)).1.2 (List.any_eq_true.1 parts)⟩

/-- A table on one line takes the next table with it. -/
theorem replace_loses_table :
    hasTable (twoTables postsOnOneLine) "users" = true ∧
      (replace (twoTables postsOnOneLine) (ModelNames.ofName "post") [] .postgresql {}).map
        (fun result => hasTable result "users") = .ok false := by
  decide +kernel

/-! ## Exports of enums -/

/-- A line begins with `start`. -/
def lineAt? (start : Text) (before : Option Char) (s : Text) : Option Unit :=
  if beginsLine before then (after? start s).map fun _ => () else none

/-- A text, of which the first line goes on after the character `before`, has a line that begins
    with `start`. -/
def hasLine (start : Text) (before : Option Char) (content : Text) : Bool :=
  (search (lineAt? start) before content).isSome

theorem lineAt?_isSome_iff {start s : Text} {before : Option Char} :
    (lineAt? start before s).isSome = true ↔ beginsLine before = true ∧ start <+: s := by
  unfold lineAt?
  cases beginsLine before with
  | false => simp
  | true =>
    rw [if_pos rfl, Option.isSome_map, Option.isSome_iff_exists]
    simp only [after?_eq_some_iff, true_and]
    exact exists_congr fun rest => eq_comm

theorem hasLine_iff {start content : Text} {before : Option Char} :
    hasLine start before content = true ↔ ∃ front rest, content = front ++ (start ++ rest) ∧
      beginsLine (charBefore before front) = true := by
  unfold hasLine
  rw [search_isSome_iff]
  simp only [lineAt?_isSome_iff]
  constructor
  · rintro ⟨front, _, rfl, begins, rest, rfl⟩
    exact ⟨front, rest, rfl, begins⟩
  · rintro ⟨front, rest, rfl, begins⟩
    exact ⟨front, _, rfl, begins, rest, rfl⟩

/-- What the line of an enum's export begins with. -/
def enumStart (name : Text) : Text := "export const " ++ (name ++ " = pgEnum(")

theorem enumStart_eq (name : Text) :
    enumStart name = 'e' :: (("xport const " : Text) ++ (name ++ " = pgEnum(")) := rfl

/-- A character of a name in an export: it ends neither with a blank nor with an equals sign. -/
def isNameChar (c : Char) : Bool := !isBlank c && c ≠ '='

/-- The text may name an enum: it holds no blank, no equals sign, no comma and no brace. -/
def isEnumName (s : Text) : Bool := isTableName s && s.all isNameChar

theorem isNameChar_of_isWord {c : Char} (letter : isWord c = true) : isNameChar c = true := by
  have noBlank : isBlank c = false := by
    rw [← Bool.not_eq_true]
    intro blank
    rw [not_isWord_of_isBlank blank] at letter
    cases letter
  have noEquals : c ≠ '=' := by
    rintro rfl
    exact absurd letter (by decide)
  simp [isNameChar, noBlank, noEquals]

theorem stops_isNameChar_of_blanks {blanks s : Text} (all : blanks.all isBlank = true)
    (stops : Stops isNameChar s) : Stops isNameChar (blanks ++ s) :=
  stops.after_run all fun _ blank => by simp [isNameChar, blank]

theorem not_mem_enumStart {name : Text} {c : Char} (absent : c ∉ name)
    (other : c ∉ ("export const = pgEnum(" : Text)) : c ∉ enumStart name := by
  unfold enumStart
  simp_all

theorem not_mem_feed_enumStart {name : Text} (named : isEnumName name = true) :
    '\n' ∉ enumStart name := by
  unfold isEnumName at named
  rw [Bool.and_eq_true] at named
  exact not_mem_enumStart (not_mem_of_isTableName named.1).1 (by decide)

/-- The start of an enum's export is a landmark. -/
theorem landmark_lineAt? {name : Text} (named : isEnumName name = true) :
    Landmark (lineAt? (enumStart name)) beginsLine (· = enumStart name) where
  spec before s := by
    rw [lineAt?_isSome_iff]
    simp
  nonempty := by
    rintro w rfl
    exact List.cons_ne_nil _ _
  noMark := by
    rintro w rfl
    unfold isEnumName at named
    rw [Bool.and_eq_true] at named
    obtain ⟨-, comma, left, right⟩ := not_mem_of_isTableName named.1
    exact ⟨not_mem_enumStart comma (by decide), not_mem_enumStart left (by decide),
      not_mem_enumStart right (by decide)⟩
  ends := by
    intro w c same
    have cut : w ++ [c] = ("export const " ++ (name ++ " = pgEnum")) ++ ['('] := by
      rw [same]
      unfold enumStart
      simp
    obtain rfl := List.singleton_inj.1 (List.append_inj' cut rfl).2
    decide
  noFeedAfter := by
    intro a b same
    exact not_mem_feed_enumStart named (same ▸ by simp)
  noFeedBefore := by
    intro a b same
    exact not_mem_feed_enumStart named (same ▸ by simp)
  begins := by
    intro before c w begins same
    rw [enumStart_eq] at same
    exact .inr ⟨(List.cons.inj same).1, begins⟩
  fits_feed := rfl

/-- Lines of two texts in a row, of which the first ends with its line. -/
theorem hasLine_append {name x : Text} (named : isEnumName name = true)
    (begins : beginsLine (charBefore none x) = true) (y : Text) :
    hasLine (enumStart name) none (x ++ y) = true ↔
      hasLine (enumStart name) none x = true ∨ hasLine (enumStart name) none y = true := by
  have mark := landmark_lineAt? named
  unfold hasLine
  rcases beginsLine_charBefore_none.1 begins with rfl | ⟨x, rfl⟩
  · simp [search, mark.eq_none_nil]
  · have seam : Sealed (lineAt? (enumStart name)) (x ++ ['\n']) y :=
      mark.sealed_concat fun z e _ _ same => not_mem_feed_enumStart named (same ▸ by simp)
    rw [search_isSome_append mark.eq_none_nil seam, charBefore_concat, mark.search_feed]

theorem EnumExport.beginsLine_text (e : EnumExport) (name : Text) :
    beginsLine (charBefore none (e.text name)) = true := by
  refine beginsLine_charBefore_none.2 (.inr ⟨"export const " ++ (name ++ (e.gap ++ '=' ::
    (e.space ++ ("pgEnum(" ++ e.line)))), ?_⟩)
  unfold text
  simp

/-- The export of another enum holds no such line. -/
theorem hasLine_enumExport {name other : Text} (named : isEnumName name = true)
    (letters : other.all isWord = true) (apart : other ≠ name) (e : EnumExport) :
    hasLine (enumStart name) none (e.text other) = false := by
  rw [← Bool.not_eq_true, hasLine_iff]
  rintro ⟨front, rest, cut, begins⟩
  rcases beginsLine_charBefore_none.1 begins with rfl | ⟨x, rfl⟩
  · -- both names reach to the first blank or equals sign
    unfold isEnumName at named
    rw [Bool.and_eq_true] at named
    have chars : other.all isNameChar = true := List.all_eq_true.2 fun c member =>
      isNameChar_of_isWord (List.all_eq_true.1 letters c member)
    have equals : Stops isNameChar ('=' :: (e.space ++ ("pgEnum(" ++ (e.line ++ ['\n'])))) :=
      (stops_cons _ _ _).2 (by decide)
    have same : ("export const " : Text) ++ (name ++ (" = pgEnum(" ++ rest)) = "export const " ++
        (other ++ (e.gap ++ '=' :: (e.space ++ ("pgEnum(" ++ (e.line ++ ['\n']))))) := by
      unfold enumStart EnumExport.text at cut
      simpa using cut.symm
    exact apart (run_unique (List.append_cancel_left same) named.2
      ((stops_cons _ _ _).2 (by decide)) chars
      (stops_isNameChar_of_blanks e.gap_blank equals)).1.symm
  · have lines : x ++ '\n' :: ("export " ++ (("const " : Text) ++ (name ++
        ((" = pgEnum(" : Text) ++ rest)))) = e.text other ++ [] := by
      rw [List.append_nil, cut]
      unfold enumStart
      simp
    obtain ⟨y, -, empty, -⟩ := e.cut (not_mem_feed_of_all_isWord letters) lines
    simp at empty

/-- Dropping an empty line keeps the others. -/
theorem hasLine_dropEmptyLine {name : Text} (named : isEnumName name = true) (s : Text) :
    hasLine (enumStart name) none (dropEmptyLine s) = true ↔
      hasLine (enumStart name) none s = true := by
  unfold dropEmptyLine
  split
  · next rest cut =>
    obtain ⟨blanks, rfl, all, -⟩ := dropWhile_eq_iff.1 cut
    have empty : hasLine (enumStart name) none (blanks ++ ['\n']) = false := by
      rw [← Bool.not_eq_true, hasLine_iff]
      rintro ⟨front, tail, same, -⟩
      rw [enumStart_eq] at same
      have member : 'e' ∈ blanks ++ ['\n'] := by simp [same]
      rcases List.mem_append.1 member with inside | feed
      · exact absurd (List.all_eq_true.1 all _ inside) (by decide)
      · simp at feed
    have begins : beginsLine (charBefore none (blanks ++ ['\n'])) = true := by
      rw [charBefore_concat]
      rfl
    rw [show blanks ++ '\n' :: rest = (blanks ++ ['\n']) ++ rest by simp,
      hasLine_append named begins, empty]
    simp
  · rfl

/-- Dropping the export of another enum keeps the line. -/
theorem hasLine_dropEnumExport {name other : Text} (named : isEnumName name = true)
    (letters : other.all isWord = true) (apart : other ≠ name) (content : Text) :
    hasLine (enumStart name) none (dropEnumExport content other) = true ↔
      hasLine (enumStart name) none content = true := by
  unfold dropEnumExport
  split
  · rfl
  · next front back found =>
    obtain ⟨rest, rfl, -, here⟩ := search_eq_some_iff.1 found
    obtain ⟨begins, e, tail, rfl, rfl⟩ := afterEnumExport?_eq_some_iff.1 here
    have ended := e.beginsLine_text other
    rw [hasLine_append named begins, hasLine_append named begins, hasLine_append named ended,
      hasLine_enumExport named letters apart, hasLine_dropEmptyLine named]
    simp

theorem all_isWord_of_mem_enumCalls {name s : Text} (called : name ∈ enumCalls s) :
    name.all isWord = true := by
  unfold enumCalls at called
  rw [List.mem_mergeSort, List.mem_eraseDups, enumCallsAfter_eq] at called
  obtain ⟨⟨_, rest⟩, call, rfl⟩ := List.mem_map.1 (List.mem_filter.1 called).1
  obtain ⟨front, -, rfl⟩ := mem_callsAfter_iff.1 call
  rw [List.all_reverse, List.all_eq_true]
  exact isWord_of_mem_lastWord (by simp)

/-- Dropping the exports of other enums keeps the line. -/
theorem hasLine_foldl_dropEnumExport {name : Text} (named : isEnumName name = true)
    {others : List Text} (letters : ∀ other ∈ others, other.all isWord = true)
    (absent : name ∉ others) (content : Text) :
    hasLine (enumStart name) none (others.foldl dropEnumExport content) = true ↔
      hasLine (enumStart name) none content = true := by
  induction others generalizing content with
  | nil => rfl
  | cons other others ih =>
    rw [List.mem_cons, not_or] at absent
    rw [List.foldl_cons, ih (fun another member => letters another (by simp [member])) absent.2]
    exact hasLine_dropEnumExport named (letters other (by simp)) (Ne.symm absent.1) content

/-- The export of an enum is kept exactly if its line begins in a part of the file that the imports
    are merged around, and the file is made of the lines around the old block and the new
    definitions. Up to there only enums that the old block calls are lost. -/
theorem hasLine_replace_iff {content result enum : Text} {names : ModelNames}
    {fields : List Field} {dialect : Dialect} {options : Options}
    (replaced : replace content names fields dialect options = .ok result)
    (named : isEnumName enum = true) :
    (hasLine (enumStart enum) none result = true ↔
      ∃ part ∈ importParts (swapped content names fields dialect options),
        hasLine (enumStart enum) part.1 part.2 = true) ∧
    (hasLine (enumStart enum) none (swapped content names fields dialect options) = true ↔
      ∃ part ∈ blockParts (withoutCalledEnums content names.table) names.table
        (definitions names fields dialect options), hasLine (enumStart enum) none part = true) ∧
    ((∀ site, TableSite.find? content names.table = some site → enum ∉ enumCalls site.block) →
      (hasLine (enumStart enum) none (withoutCalledEnums content names.table) = true ↔
        hasLine (enumStart enum) none content = true)) := by
  have mark := landmark_lineAt? named
  refine ⟨?_, mark.search_replaceBlock _ _ (definitions_shape names fields dialect options), ?_⟩
  · rw [(replace_eq_ok_iff.1 replaced).2]
    have words := Catalogue.symbols_requiredImports fields dialect options
    exact mark.search_mergeImports _ words dialect
  · intro notCalled
    unfold withoutCalledEnums
    split
    · rfl
    · next site found =>
      exact hasLine_foldl_dropEnumExport named (fun _ => all_isWord_of_mem_enumCalls)
        (notCalled site found) content

/-- The export of the enum `stateEnum`. -/
def stateExport : Text := "export const stateEnum = pgEnum(\"state\", [\"draft\", \"live\"]);\n\n"

/-- A file in which the tables `posts` and `users` call the enum `stateEnum`. -/
def sharedEnum : Text :=
  Text.code "import ⟦ pgTable, serial, pgEnum ⟧ from \"drizzle-orm/pg-core\";\n\n" ++ stateExport
    ++ Text.code "export const posts = pgTable(\"posts\", ⟦\n  id: serial(\"id\").primaryKey(),\n"
    ++ Text.code "  state: stateEnum(\"state\").notNull(),\n⟧);\n\n"
    ++ Text.code "export const users = pgTable(\"users\", ⟦\n  id: serial(\"id\").primaryKey(),\n"
    ++ Text.code "  state: stateEnum(\"state\").notNull(),\n⟧);\n"

/-- The block of a table calls the enum. -/
def callsEnum (content table enum : Text) : Bool :=
  (TableSite.find? content table).any fun site => (enumCalls site.block).contains enum

theorem replace_keeps_enum :
    ∃ result, replace (stateExport ++ twoTables postsOnThreeLines) (ModelNames.ofName "post") []
      .postgresql {} = .ok result ∧ hasLine (enumStart "stateEnum") none result = true := by
  have found : (TableSite.find? (stateExport ++ twoTables postsOnThreeLines)
      (ModelNames.ofName "post").table).isSome = true := by decide +kernel
  have parts : ((importParts (swapped (stateExport ++ twoTables postsOnThreeLines)
      (ModelNames.ofName "post") [] .postgresql {})).any fun part =>
        hasLine (enumStart "stateEnum") part.1 part.2) = true := by decide +kernel
  have replaced : replace (stateExport ++ twoTables postsOnThreeLines) (ModelNames.ofName "post") []
      .postgresql {} = .ok _ := replace_eq_ok_iff.2 ⟨found, rfl⟩
  exact ⟨_, replaced, (hasLine_replace_iff replaced (by decide)).1.2 (List.any_eq_true.1 parts)⟩

/-- An enum that two tables call goes with the first of them. -/
theorem replace_loses_enum :
    hasLine (enumStart "stateEnum") none sharedEnum = true ∧
      callsEnum sharedEnum "users" "stateEnum" = true ∧
      (replace sharedEnum (ModelNames.ofName "post") [] .postgresql {}).map
        (fun result => hasLine (enumStart "stateEnum") none result) = .ok false := by
  decide +kernel

end Groundwork.Schema
