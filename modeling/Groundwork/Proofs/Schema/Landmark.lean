import Groundwork.Proofs.Schema.Catalogue
import Groundwork.Proofs.Text.Seam

/-!
# Landmarks

A landmark is a phrase that is looked for in a schema file: the call that makes a table, or the
start of a line that exports an enum. A landmark reaches over none of the seams that rewriting a
file makes, so it is found in the new file exactly if it is found in a part that the file is made of
(`search_mergeImports`, `search_replaceBlock`).
-/

namespace Groundwork.Schema

open Text

/-- A character of a word of an import statement, or a space. -/
def isPlainOrSpace (c : Char) : Bool := isPlain c || c = ' '

/-- What follows the symbols in an import statement. -/
def importTail (dialect : Dialect) : Text := Text.code " ⟧ from \"" ++ dialect.module ++ "\";"

/-- The phrases of a landmark hold no comma and no brace, end with a sign, and go over a line feed
    only between two blanks or after a parenthesis. -/
structure Landmark (recognise : Option Char → Text → Option Unit) (fits : Option Char → Bool)
    (phrases : Text → Prop) : Prop extends RecognisesPhrases recognise fits phrases where
  noMark : ∀ w, phrases w → ',' ∉ w ∧ '\x7b' ∉ w ∧ '\x7d' ∉ w
  ends : ∀ w c, phrases (w ++ [c]) → isPlainOrSpace c = false
  noFeedAfter : ∀ a b, ¬ phrases (a ++ ';' :: '\n' :: b)
  noFeedBefore : ∀ a b, ¬ phrases (a ++ '\n' :: 'e' :: b)
  begins : ∀ before c w, fits before = true → phrases (c :: w) →
    c = 'T' ∨ (c = 'e' ∧ beginsLine before = true)
  fits_feed : fits (some '\n') = fits none

/-- The parts of a file that its imports are merged around, each with the character that precedes it
    in the new file: all but the form of the import statement. -/
def importParts (content : Text) : List (Option Char × Text) :=
  match ImportSite.find? content with
  | none => [(none, content)]
  | some site => (none, site.front) :: (some ';', site.back) :: site.symbols.map ((some ' ', ·))

/-- The parts that a file is made of when the block of a table is replaced. -/
def blockParts (content table block : Text) : List Text :=
  match TableSite.find? content table with
  | none => [content]
  | some site => [site.front, block, site.back]

/-- Definitions begin with an export and end with a semicolon. -/
theorem definitions_shape (names : ModelNames) (fields : List Field) (dialect : Dialect)
    (options : Options) : ∃ s, definitions names fields dialect options = 'e' :: (s ++ [';']) := by
  obtain ⟨s, last⟩ : ∃ s, definitions names fields dialect options = s ++ [';'] := by
    rw [definitions_eq, tableExport_eq]
    exact ⟨exportBlocks names (exportedEnums fields dialect) ++ (tableHeader names dialect ++
      (tableBody names fields dialect options ++ "\n\x7d)")), by simp [tableEnd, Text.code]⟩
  have exports := exports_exportBlocks names (exportedEnums fields dialect)
    (exports_tableExport names fields dialect options [])
  rw [List.append_nil, ← definitions_eq, last] at exports
  rcases exports with empty | ⟨t, same⟩
  · simp at empty
  · cases s with
    | nil => exact absurd (List.cons.inj same).1 (by decide)
    | cons c s =>
      obtain ⟨rfl, -⟩ := List.cons.inj same
      exact ⟨s, last⟩

/-- A table's block is a sequence of whole lines. -/
theorem lines_of_find? {content table : Text} {site : TableSite}
    (found : TableSite.find? content table = some site) :
    beginsLine (charBefore none site.front) = true ∧ atLineEnd site.back = true := by
  obtain ⟨⟨front, block, back⟩, searched, rfl⟩ := Option.map_eq_some_iff.1 found
  obtain ⟨rest, -, -, here⟩ := search_eq_some_iff.1 searched
  obtain ⟨begins, h, inside, c, -, -, ends, -⟩ := tableBlockAt?_eq_some_iff.1 here
  exact ⟨begins, ends⟩

namespace Landmark

variable {recognise : Option Char → Text → Option Unit} {fits : Option Char → Bool}
  {phrases : Text → Prop}

/-! ## Seams -/

/-- No landmark reaches over a comma or a brace, or over words before it. -/
theorem sealed_mark (mark : Landmark recognise fits phrases) (x : Text) {p : Text} {d : Char}
    (words : p.all isPlainOrSpace = true) (sign : d = ',' ∨ d = '\x7b' ∨ d = '\x7d') (t : Text) :
    Sealed recognise x (p ++ d :: t) := by
  refine mark.sealed fun z e _ _ nonempty begun phrase => ?_
  have absent : d ∉ z ++ e := by
    obtain ⟨comma, opening, closing⟩ := mark.noMark _ phrase
    rcases sign with rfl | rfl | rfl
    · exact comma
    · exact opening
    · exact closing
  obtain ⟨rest, same⟩ := begun
  rw [List.mem_append, not_or] at absent
  obtain ⟨y, rfl, -⟩ := cut_before absent.2 same.symm
  obtain ⟨e, c, rfl⟩ := (List.eq_nil_or_concat e).resolve_left nonempty
  rw [List.concat_eq_append, ← List.append_assoc] at phrase
  have sign := mark.ends _ _ phrase
  rw [List.all_eq_true] at words
  rw [words c (by simp)] at sign
  cases sign

/-- No landmark reaches over the end of a line with a semicolon. -/
theorem sealed_semicolon (mark : Landmark recognise fits phrases) (x t : Text) :
    Sealed recognise (x ++ [';']) ('\n' :: t) := by
  refine mark.sealed_concat fun z e nonempty begun phrase => ?_
  obtain ⟨d, e, rfl⟩ := List.exists_cons_of_ne_nil nonempty
  obtain ⟨rfl, -⟩ := List.cons_prefix_cons.1 begun
  exact mark.noFeedAfter _ _ phrase

/-- No landmark reaches over a line feed before an export. -/
theorem sealed_export (mark : Landmark recognise fits phrases) (x t : Text) :
    Sealed recognise (x ++ ['\n']) ('e' :: t) := by
  refine mark.sealed_concat fun z e nonempty begun phrase => ?_
  obtain ⟨d, e, rfl⟩ := List.exists_cons_of_ne_nil nonempty
  obtain ⟨rfl, -⟩ := List.cons_prefix_cons.1 begun
  exact mark.noFeedBefore _ _ phrase

/-! ## Text without landmarks -/

/-- A landmark is at no place that begins neither with a `T` nor a line. -/
theorem eq_none (mark : Landmark recognise fits phrases) {before : Option Char} {c : Char}
    (noT : c ≠ 'T') (noStart : c ≠ 'e' ∨ beginsLine before = false) (s : Text) :
    recognise before (c :: s) = none := by
  rw [← Option.not_isSome_iff_eq_none]
  intro found
  obtain ⟨fit, w, phrase, here⟩ := (mark.spec _ _).1 found
  obtain ⟨d, w, rfl⟩ := List.exists_cons_of_ne_nil (mark.nonempty w phrase)
  obtain ⟨rfl, -⟩ := List.cons_prefix_cons.1 here
  rcases mark.begins before d w fit phrase with isT | ⟨isE, begins⟩
  · exact noT isT
  · rcases noStart with other | inside
    · exact other isE
    · rw [inside] at begins
      cases begins

/-- On a line without a `T` there is no landmark after its start. -/
theorem failsWithin (mark : Landmark recognise fits phrases) {before : Option Char} {p : Text}
    (noT : 'T' ∉ p) (noFeed : '\n' ∉ p) (start : p.head? ≠ some 'e' ∨ beginsLine before = false)
    (t : Text) : FailsWithin recognise before p t := by
  induction p generalizing before with
  | nil => exact failsWithin_nil _ _
  | cons c p ih =>
    rw [List.mem_cons, not_or] at noT noFeed
    refine failsWithin_cons.2 ⟨mark.eq_none (Ne.symm noT.1) ?_ _, ih noT.2 noFeed.2 (.inr ?_)⟩
    · simpa using start
    · simpa [beginsLine] using Ne.symm noFeed.1

/-- A plain word holds no landmark. -/
theorem search_plain (mark : Landmark recognise fits phrases) {symbol : Text}
    (plain : Plain symbol) (before : Option Char) : search recognise before symbol = none := by
  rw [search_eq_none_iff]
  intro front rest cut
  rw [← Option.not_isSome_iff_eq_none]
  intro found
  obtain ⟨-, w, phrase, here⟩ := (mark.spec _ _).1 found
  obtain ⟨v, c, rfl⟩ := (List.eq_nil_or_concat w).resolve_left (mark.nonempty w phrase)
  rw [List.concat_eq_append] at phrase here
  have sign := mark.ends v c phrase
  have member : c ∈ symbol := by
    rw [cut]
    exact List.mem_append_right _ (here.subset (by simp))
  unfold isPlainOrSpace at sign
  rw [plain c member] at sign
  cases sign

/-- At the start of the text there is a landmark if there would be one at the start of a line. -/
theorem search_feed (mark : Landmark recognise fits phrases) (s : Text) :
    (search recognise (some '\n') s).isSome = true ↔ (search recognise none s).isSome = true := by
  have same (t : Text) : (recognise (some '\n') t).isSome = true ↔
      (recognise none t).isSome = true := by
    rw [mark.spec, mark.spec, mark.fits_feed]
  rw [search_isSome_iff, search_isSome_iff]
  refine exists_congr fun front => exists_congr fun rest => and_congr_right fun _ => ?_
  cases front with
  | nil => exact same rest
  | cons c front => rfl

/-! ## The import statement -/

/-- A landmark in a list of symbols stands in one of them. -/
theorem search_symbols (mark : Landmark recognise fits phrases) (symbols : List Text)
    (dialect : Dialect) (back : Text) :
    (search recognise (some ' ')
        (List.intercalate ", " symbols ++ (importTail dialect ++ back))).isSome = true ↔
      (∃ symbol ∈ symbols, (search recognise (some ' ') symbol).isSome = true) ∨
        (search recognise (some ';') back).isSome = true := by
  have noT : 'T' ∉ importTail dialect := by cases dialect <;> decide
  have noFeed : '\n' ∉ importTail dialect := by cases dialect <;> decide
  have tail (before : Option Char) : (search recognise before (importTail dialect ++ back)).isSome
      = true ↔ (search recognise (some ';') back).isSome = true := by
    have fails : FailsWithin recognise before (importTail dialect) back :=
      mark.failsWithin noT noFeed (.inl (by cases dialect <;> decide)) back
    rw [search_isSome_skip fails]
    cases dialect <;> rfl
  induction symbols with
  | nil => simpa using tail _
  | cons symbol symbols ih =>
    cases symbols with
    | nil =>
      have seam : Sealed recognise symbol (importTail dialect ++ back) :=
        mark.sealed_mark symbol (p := " ") (by decide) (.inr (.inr rfl)) _
      rw [List.intercalate_singleton, search_isSome_append mark.eq_none_nil seam, tail]
      simp
    | cons next symbols =>
      have seam (t : Text) : Sealed recognise symbol (", " ++ t) :=
        mark.sealed_mark symbol (p := []) rfl (.inl rfl) _
      have comma (before : Option Char) (t : Text) : FailsWithin recognise before ", " t :=
        mark.failsWithin (by decide) (by decide) (.inl (by decide)) t
      rw [List.intercalate_cons_cons, List.append_assoc, List.append_assoc,
        search_isSome_append mark.eq_none_nil (seam _), search_isSome_skip (comma _ _)]
      refine (or_congr_right ih).trans ?_
      simp [or_assoc]

/-- A landmark of a file stands before its import statement, in one of the symbols, or after it. -/
theorem search_statement (mark : Landmark recognise fits phrases) (front : Text)
    (symbols : List Text) (dialect : Dialect) (back : Text) :
    (search recognise none (front ++ (importStatement symbols dialect ++ back))).isSome = true ↔
      (search recognise none front).isSome = true ∨
        (∃ symbol ∈ symbols, (search recognise (some ' ') symbol).isSome = true) ∨
          (search recognise (some ';') back).isSome = true := by
  have text : importStatement symbols dialect ++ back =
      Text.code "import ⟦ " ++ (List.intercalate ", " symbols ++ (importTail dialect ++ back)) := by
    unfold importStatement importTail
    simp only [List.append_assoc]
  have seam (t : Text) : Sealed recognise front (Text.code "import ⟦ " ++ t) :=
    mark.sealed_mark front (p := "import ") (d := '\x7b') (by decide) (.inr (.inl rfl)) (" " ++ t)
  have opening (before : Option Char) (t : Text) :
      FailsWithin recognise before (Text.code "import ⟦ ") t :=
    mark.failsWithin (by decide) (by decide) (.inl (by decide)) t
  rw [text, search_isSome_append mark.eq_none_nil (seam _), search_isSome_skip (opening _ _)]
  exact or_congr_right (mark.search_symbols symbols dialect back)

/-- A landmark of a file with merged imports stands in one of the parts that stay. -/
theorem search_mergeImports (mark : Landmark recognise fits phrases) (content : Text)
    {added : List Text} (words : Symbols added) (dialect : Dialect) :
    (search recognise none (mergeImports content added dialect)).isSome = true ↔
      ∃ part ∈ importParts content, (search recognise part.1 part.2).isSome = true := by
  have quiet : ∀ symbol ∈ added, (search recognise (some ' ') symbol).isSome = false := by
    intro symbol member
    rw [mark.search_plain (words symbol member).2]
    rfl
  unfold mergeImports importParts importedSymbols
  cases found : ImportSite.find? content with
  | none =>
    have skip : FailsWithin recognise (some ';') ['\n'] content :=
      failsWithin_cons.2 ⟨mark.eq_none (by decide) (.inl (by decide)) _, failsWithin_nil _ _⟩
    have statement := mark.search_statement [] added.eraseDups dialect ('\n' :: content)
    have feed : (search recognise (some ';') ('\n' :: content)).isSome = true ↔
        (search recognise none content).isSome = true :=
      (search_isSome_skip skip).trans (mark.search_feed content)
    rw [feed] at statement
    simp only [List.nil_append] at statement ⊢
    rw [List.append_assoc]
    refine statement.trans ?_
    constructor
    · rintro (empty | ⟨symbol, member, here⟩ | here)
      · simp [search, mark.eq_none_nil] at empty
      · rw [quiet symbol (List.mem_eraseDups.1 member)] at here
        cases here
      · exact ⟨(none, content), by simp, here⟩
    · rintro ⟨part, member, here⟩
      rw [List.mem_singleton.1 member] at here
      exact .inr (.inr here)
  | some site =>
    simp only [List.append_assoc]
    refine (mark.search_statement _ _ dialect _).trans ?_
    constructor
    · rintro (here | ⟨symbol, member, here⟩ | here)
      · exact ⟨(none, site.front), by simp, here⟩
      · rcases List.mem_append.1 (List.mem_eraseDups.1 member) with imported | new
        · exact ⟨(some ' ', symbol), by simp [imported], here⟩
        · rw [quiet symbol new] at here
          cases here
      · exact ⟨(some ';', site.back), by simp, here⟩
    · rintro ⟨part, member, here⟩
      rcases List.mem_cons.1 member with rfl | member
      · exact .inl here
      rcases List.mem_cons.1 member with rfl | member
      · exact .inr (.inr here)
      · obtain ⟨symbol, imported, rfl⟩ := List.mem_map.1 member
        exact .inr (.inl ⟨symbol, List.mem_eraseDups.2 (List.mem_append_left _ imported), here⟩)

/-- A landmark of lines with an export after them stands in the lines or in what begins there. -/
theorem search_lines_append (mark : Landmark recognise fits phrases) {x : Text}
    (begins : beginsLine (charBefore none x) = true) (t : Text) :
    (search recognise none (x ++ 'e' :: t)).isSome = true ↔
      (search recognise none x).isSome = true ∨
        (search recognise none ('e' :: t)).isSome = true := by
  rcases beginsLine_charBefore_none.1 begins with rfl | ⟨y, rfl⟩
  · simp [search, mark.eq_none_nil]
  · rw [search_isSome_append mark.eq_none_nil (mark.sealed_export y t), charBefore_concat,
      mark.search_feed]

/-- A landmark of text that ends with a semicolon, with other lines after it, stands in one of
    both. -/
theorem search_block_append (mark : Landmark recognise fits phrases) (s : Text) {back : Text}
    (ends : atLineEnd back = true) :
    (search recognise none ('e' :: (s ++ [';'] ++ back))).isSome = true ↔
      (search recognise none ('e' :: (s ++ [';']))).isSome = true ∨
        (search recognise none back).isSome = true := by
  cases back with
  | nil => simp [search, mark.eq_none_nil]
  | cons d t =>
    obtain rfl : d = '\n' := by simpa [atLineEnd] using ends
    have seam : Sealed recognise ('e' :: (s ++ [';'])) ('\n' :: t) :=
      mark.sealed_semicolon ('e' :: s) t
    have skip (before : Option Char) : FailsWithin recognise before ['\n'] t :=
      failsWithin_cons.2 ⟨mark.eq_none (by decide) (.inl (by decide)) _, failsWithin_nil _ _⟩
    have feed (before : Option Char) : (search recognise before ('\n' :: t)).isSome = true ↔
        (search recognise (some '\n') t).isSome = true := search_isSome_skip (skip before)
    rw [← List.cons_append, search_isSome_append mark.eq_none_nil seam, feed, feed]

/-- A landmark of a file with a replaced block stands in one of the parts that the file is made
    of. -/
theorem search_replaceBlock (mark : Landmark recognise fits phrases) (content table : Text)
    {block : Text} (shape : ∃ s, block = 'e' :: (s ++ [';'])) :
    (search recognise none (replaceBlock content table block)).isSome = true ↔
      ∃ part ∈ blockParts content table block, (search recognise none part).isSome = true := by
  unfold replaceBlock blockParts
  cases found : TableSite.find? content table with
  | none => simp
  | some site =>
    obtain ⟨begins, ends⟩ := lines_of_find? found
    obtain ⟨s, rfl⟩ := shape
    have back := mark.search_block_append s ends
    have front := mark.search_lines_append begins (s ++ [';'] ++ site.back)
    rw [back] at front
    dsimp only
    rw [List.append_assoc]
    refine front.trans ?_
    simp

end Landmark

end Groundwork.Schema
