import Groundwork.Proofs.Naming.Plural
import Groundwork.Proofs.Schema.ExportName
import Groundwork.Proofs.Schema.Surroundings

/-!
# Exports after a regeneration

Every step of a replacement keeps the names that a file exports or drops some of them: the enums
that the old block calls go with their exports, the block goes with its own, and merging the imports
brings in none. So the exported names stay apart if the names of the new definitions have room
(`replace_keeps_exportsApart`): nothing else may be exported under them, and an enum that the old
block calls only in an export that is recognised, on one line.
-/

namespace Groundwork.Schema

open Text

/-! ## Dropping exports of enums -/

theorem EnumExport.stops_name (e : EnumExport) (s : Text) :
    Stops isIdentifierChar (e.gap ++ '=' :: s) := by
  cases gap : e.gap with
  | nil => exact (stops_cons _ _ _).2 (by decide)
  | cons c rest =>
    have blank := e.gap_blank
    rw [gap, List.all_cons, Bool.and_eq_true] at blank
    exact (stops_cons _ _ _).2 (not_isIdentifierChar_of_isBlank blank.1)

/-- The export of an enum exports the enum's name first. -/
theorem EnumExport.exportNames_text (e : EnumExport) {name : Text} (nonempty : name ≠ [])
    (letters : name.all isWord = true) :
    ∃ others, exportNames none (e.text name) = name :: others :=
  exportNames_export rfl nonempty (all_isIdentifierChar_of_all_isWord letters) (e.stops_name _)

/-- Dropping an empty line brings in no export. -/
theorem exportNames_dropEmptyLine_sublist (s : Text) :
    (exportNames none (dropEmptyLine s)).Sublist (exportNames none s) := by
  unfold dropEmptyLine
  split
  · next rest cut =>
    obtain ⟨blanks, rfl, -, -⟩ := dropWhile_eq_iff.1 cut
    have kept := exportNames_sublist_append none (blanks ++ ['\n']) rest
    have atStart : beginsLine (some '\n') = beginsLine none := rfl
    rw [charBefore_concat, exportNames_congr atStart, List.append_assoc] at kept
    exact kept
  · exact List.Sublist.refl _

/-- Where the first export of an enum stands, and what is exported before and after it. -/
theorem exportNames_of_search {name content front back : Text}
    (found : search (afterEnumExport? name) none content = some (front, back)) :
    ∃ e : EnumExport, exportNames none (front ++ back) = exportNames none front ++
      exportNames none back ∧ (exportNames none front ++ (exportNames none (e.text name) ++
        exportNames none back)).Sublist (exportNames none content) := by
  obtain ⟨rest, rfl, -, here⟩ := search_eq_some_iff.1 found
  obtain ⟨begins, e, tail, rfl, rfl⟩ := afterEnumExport?_eq_some_iff.1 here
  refine ⟨e, exportNames_append_lines begins _, ?_⟩
  rw [exportNames_append_lines begins, exportNames_append_lines (e.beginsLine_text name)]
  have back := exportNames_dropEmptyLine_sublist tail
  exact (List.Sublist.refl _).append ((List.Sublist.refl _).append back)

/-- Dropping the export of an enum brings in no export. -/
theorem exportNames_dropEnumExport_sublist (content name : Text) :
    (exportNames none (dropEnumExport content name)).Sublist (exportNames none content) := by
  unfold dropEnumExport
  split
  · exact List.Sublist.refl _
  · next front back found =>
    obtain ⟨e, apart, whole⟩ := exportNames_of_search found
    rw [apart]
    exact ((List.Sublist.refl _).append (List.sublist_append_right _ _)).trans whole

theorem exportNames_foldl_dropEnumExport_sublist (called : List Text) (content : Text) :
    (exportNames none (called.foldl dropEnumExport content)).Sublist
      (exportNames none content) := by
  induction called generalizing content with
  | nil => exact List.Sublist.refl _
  | cons name called ih => exact (ih _).trans (exportNames_dropEnumExport_sublist content name)

/-- An enum whose export is dropped is not exported any more, if its name was exported once. -/
theorem not_mem_exportNames_dropEnumExport {name content : Text} (nonempty : name ≠ [])
    (letters : name.all isWord = true) (apart : ExportsApart content)
    (exported : hasEnumExport name content = true) :
    name ∉ exportNames none (dropEnumExport content name) := by
  obtain ⟨⟨front, back⟩, found⟩ := Option.isSome_iff_exists.1 exported
  obtain ⟨e, cut, whole⟩ := exportNames_of_search found
  obtain ⟨others, first⟩ := e.exportNames_text nonempty letters
  rw [first, List.cons_append] at whole
  have distinct := List.nodup_middle.1 (whole.nodup apart)
  unfold dropEnumExport
  rw [found, cut]
  intro member
  refine (List.nodup_cons.1 distinct).1 ?_
  rcases List.mem_append.1 member with inside | inside <;> simp [inside]

/-- The name that an export of an enum is read with is the one that it is written with. -/
theorem EnumExport.name_unique {e g : EnumExport} {name other s t : Text}
    (letters : name.all isWord = true) (others : other.all isWord = true)
    (same : e.text name ++ s = g.text other ++ t) : name = other := by
  rw [e.text_append, g.text_append] at same
  exact (run_unique (List.append_cancel_left same) letters
    (stops_isWord_of_blanks e.gap_blank ((stops_cons _ _ _).2 (by decide))) others
    (stops_isWord_of_blanks g.gap_blank ((stops_cons _ _ _).2 (by decide)))).1

theorem hasEnumExport_iff {name content : Text} :
    hasEnumExport name content = true ↔ ∃ (front : Text) (e : EnumExport) (tail : Text),
      content = front ++ (e.text name ++ tail) ∧ beginsLine (charBefore none front) = true := by
  unfold hasEnumExport
  rw [search_isSome_iff]
  constructor
  · rintro ⟨front, rest, rfl, here⟩
    obtain ⟨after, here⟩ := Option.isSome_iff_exists.1 here
    obtain ⟨begins, e, tail, rfl, -⟩ := afterEnumExport?_eq_some_iff.1 here
    exact ⟨front, e, tail, rfl, begins⟩
  · rintro ⟨front, e, tail, rfl, begins⟩
    exact ⟨front, _, rfl, Option.isSome_iff_exists.2
      ⟨_, afterEnumExport?_eq_some_iff.2 ⟨begins, e, tail, rfl, rfl⟩⟩⟩

/-- A text with a line after it ends with a line feed, unless it is empty. -/
theorem exists_feed_of_beginsLine {before : Option Char} {x y : Text} (nonempty : y ≠ [])
    (begins : beginsLine (charBefore before (x ++ y)) = true) : ∃ z, y = z ++ ['\n'] := by
  obtain ⟨z, c, rfl⟩ := (List.eq_nil_or_concat y).resolve_left nonempty
  rw [List.concat_eq_append, ← List.append_assoc, charBefore_concat] at begins
  obtain rfl : c = '\n' := by simpa [beginsLine] using begins
  exact ⟨z, List.concat_eq_append⟩

/-- What is left of lines without an empty line ends with a line. -/
theorem beginsLine_dropEmptyLine {s : Text} (begins : beginsLine (charBefore none s) = true) :
    beginsLine (charBefore none (dropEmptyLine s)) = true := by
  unfold dropEmptyLine
  split
  · next rest cut =>
    obtain ⟨blanks, rfl, -, -⟩ := dropWhile_eq_iff.1 cut
    rcases eq_or_ne rest [] with rfl | nonempty
    · rfl
    · rw [List.append_cons] at begins
      obtain ⟨z, rfl⟩ := exists_feed_of_beginsLine nonempty begins
      rw [charBefore_concat]
      rfl
  · exact begins

/-- Dropping the export of another enum keeps the export of an enum. -/
theorem hasEnumExport_dropEnumExport {name other content : Text} (letters : name.all isWord = true)
    (others : other.all isWord = true) (apart : other ≠ name)
    (exported : hasEnumExport name content = true) :
    hasEnumExport name (dropEnumExport content other) = true := by
  unfold dropEnumExport
  split
  · exact exported
  · next front back found =>
    obtain ⟨rest, rfl, -, here⟩ := search_eq_some_iff.1 found
    obtain ⟨begins, e, tail, rfl, rfl⟩ := afterEnumExport?_eq_some_iff.1 here
    obtain ⟨p, g, t, cut, atLine⟩ := hasEnumExport_iff.1 exported
    rw [hasEnumExport_iff]
    have export' : ∃ u, g.text name ++ t = "export " ++ u := by
      rw [g.text_append]
      exact export_of_constant _
    have exportOther : ∃ u, e.text other ++ tail = "export " ++ u := by
      rw [e.text_append]
      exact export_of_constant _
    rcases List.append_eq_append_iff.1 cut with ⟨a, rfl, same⟩ | ⟨a, rfl, same⟩
    · -- the export stands after the one that is dropped
      rcases eq_or_ne a [] with rfl | nonempty
      · exact absurd (EnumExport.name_unique others letters same) apart
      · obtain ⟨a, rfl⟩ := exists_feed_of_beginsLine nonempty atLine
        obtain ⟨u, text⟩ := export'
        rw [text, List.append_assoc, List.singleton_append] at same
        obtain ⟨y, -, rfl, ends⟩ := e.cut (not_mem_feed_of_all_isWord others) same.symm
        have ended : beginsLine (charBefore none y) = true := beginsLine_charBefore_none.2 ends
        refine ⟨front ++ dropEmptyLine y, g, t, ?_, ?_⟩
        · rw [dropEmptyLine_append_export u ends, text, List.append_assoc]
        · have left := beginsLine_charBefore_none.1 (beginsLine_dropEmptyLine ended)
          rcases left with empty | ⟨z, line⟩
          · rwa [empty, List.append_nil]
          · rw [line, ← List.append_assoc, charBefore_concat]
            rfl
    · -- the export stands before it
      rcases eq_or_ne a [] with rfl | nonempty
      · exact absurd (EnumExport.name_unique letters others same).symm apart
      · obtain ⟨a, rfl⟩ := exists_feed_of_beginsLine nonempty begins
        obtain ⟨u, text⟩ := exportOther
        rw [text, List.append_assoc, List.singleton_append] at same
        obtain ⟨y, line, -, -⟩ := g.cut (not_mem_feed_of_all_isWord letters) same.symm
        refine ⟨p, g, y ++ dropEmptyLine tail, ?_, atLine⟩
        rw [line]
        simp only [List.append_assoc]

/-- An enum is not exported any more after the exports of several enums were dropped, its own among
    them. -/
theorem not_mem_exportNames_foldl_dropEnumExport {name : Text} (nonempty : name ≠ [])
    {called : List Text} (letters : ∀ other ∈ called, other.all isWord = true)
    (member : name ∈ called) {content : Text} (apart : ExportsApart content)
    (exported : hasEnumExport name content = true) :
    name ∉ exportNames none (called.foldl dropEnumExport content) := by
  induction called generalizing content with
  | nil => cases member
  | cons other called ih =>
    have ownLetters := letters name member
    rw [List.foldl_cons]
    by_cases same : other = name
    · subst same
      have gone := not_mem_exportNames_dropEnumExport nonempty ownLetters apart exported
      exact fun still => gone ((exportNames_foldl_dropEnumExport_sublist called _).subset still)
    · have later : name ∈ called := (List.mem_cons.1 member).resolve_left (Ne.symm same)
      refine ih (fun another listed => letters another (List.mem_cons_of_mem _ listed)) later ?_ ?_
      · exact (exportNames_dropEnumExport_sublist content other).nodup apart
      · exact hasEnumExport_dropEnumExport ownLetters (letters other (by simp)) same exported

/-! ## Merging imports -/

/-- Fewer names are exported by a text that does not begin a line. -/
theorem exportNames_inside_sublist {inside : Option Char} (within : beginsLine inside = false)
    (before : Option Char) (s : Text) :
    (exportNames inside s).Sublist (exportNames before s) := by
  cases s with
  | nil => exact List.Sublist.refl _
  | cons c s =>
    rw [exportNames, exportNames, ofLines_exportedName? _ _ within]
    exact List.sublist_append_right _ _

theorem stops_isIdentifierChar_of_blanks {blanks s : Text} (all : blanks.all isBlank = true)
    (stops : Stops isIdentifierChar s) : Stops isIdentifierChar (blanks ++ s) :=
  stops.after_run all fun _ => not_isIdentifierChar_of_isBlank

/-- The names of a text without the blanks around it are names of the text. -/
theorem exportNames_trim_sublist (before : Option Char) (s : Text) :
    (exportNames (some ' ') (trim s)).Sublist (exportNames before s) := by
  obtain ⟨gap, space, cut, -, blank⟩ := exists_trim s
  have ends : Stops isIdentifierChar space := by
    simpa using stops_isIdentifierChar_of_blanks blank (stops_nil _)
  rw [List.append_assoc] at cut
  have inside : beginsLine (some ' ') = false := rfl
  have front := exportNames_inside_sublist inside (charBefore before gap) (trim s)
  have back := exportNames_append_sublist ends (charBefore before gap) (trim s)
  have whole := exportNames_sublist_append before gap (trim s ++ space)
  rw [← cut] at whole
  exact (front.trans (List.sublist_append_left _ _)).trans (back.trans whole)

/-- The names of the pieces of a list are names of the list. -/
theorem exportNames_pieces_sublist (before : Option Char) (pieces : List Text) :
    (pieces.flatMap fun piece => exportNames (some ' ') (trim piece)).Sublist
      (exportNames before (List.intercalate [','] pieces)) := by
  induction pieces generalizing before with
  | nil => exact List.nil_sublist _
  | cons piece pieces ih =>
    have first := exportNames_trim_sublist before piece
    rw [List.flatMap_cons]
    cases pieces with
    | nil => simpa using first
    | cons next pieces =>
      have comma : Stops isIdentifierChar
          ([','] ++ List.intercalate [','] (next :: pieces)) := (stops_cons _ _ _).2 (by decide)
      have rest := exportNames_sublist_append (charBefore before piece) [',']
        (List.intercalate [','] (next :: pieces))
      rw [List.intercalate_cons_cons, List.append_assoc]
      exact (first.append ((ih _).trans rest)).trans
        (exportNames_append_sublist comma before piece)

/-- A plain word exports nothing. -/
theorem exportNames_plain {before : Option Char} (inside : beginsLine before = false) {s : Text}
    (plain : Plain s) : exportNames before s = [] := by
  have skipped := exportNames_skip_inside inside (plain.not_mem (c := '\n') rfl) []
  rwa [List.append_nil] at skipped

theorem eraseDups_sublist : ∀ l : List Text, l.eraseDups.Sublist l
  | [] => List.Sublist.refl _
  | a :: l => by
    have rest := eraseDups_sublist (l.filter fun b => !b == a)
    rw [List.eraseDups_cons]
    exact (rest.trans List.filter_sublist).cons_cons a
termination_by l => l.length
decreasing_by exact Nat.lt_succ_of_le (List.length_filter_le _ _)

/-- The names that symbols export in a statement. -/
theorem exportNames_statement (symbols : List Text) (dialect : Dialect) (back : Text) :
    exportNames (some ' ') (List.intercalate ", " symbols ++ (importTail dialect ++ back)) =
      symbols.flatMap (exportNames (some ' ')) ++ exportNames (some ';') back := by
  obtain ⟨rest, text, noFeed, last⟩ : ∃ rest, importTail dialect = ' ' :: '\x7d' :: rest ∧
      '\n' ∉ ' ' :: '\x7d' :: rest ∧ charBefore (some ' ') ('\x7d' :: rest) = some ';' := by
    cases dialect
    · exact ⟨_, rfl, by decide, rfl⟩
    · exact ⟨_, rfl, by decide, rfl⟩
    · exact ⟨_, rfl, by decide, rfl⟩
  have detached : Detached (importTail dialect ++ back) := by
    rw [text]
    refine ⟨(stops_cons _ _ _).2 (by decide), fun t same => ?_⟩
    rw [← (List.cons.inj same).2]
    exact (stops_cons _ _ _).2 (by decide)
  have tail (before : Option Char) :
      exportNames before (importTail dialect ++ back) = exportNames (some ';') back := by
    rw [text, List.cons_append, exportNames_of_ne (by decide) noFeed, last]
  induction symbols with
  | nil => exact tail _
  | cons symbol symbols ih =>
    cases symbols with
    | nil =>
      rw [List.intercalate_singleton, exportNames_append_detached detached, tail]
      simp
    | cons next symbols =>
      have comma : Detached (", " ++ (List.intercalate ", " (next :: symbols) ++
          (importTail dialect ++ back))) := detached_of_ne_space (by decide) (by decide) _
      have skipped (before : Option Char) (t : Text) :
          exportNames before (", " ++ t) = exportNames (some ' ') t :=
        exportNames_of_ne (by decide) (by decide : '\n' ∉ (", " : Text)) t
      rw [List.intercalate_cons_cons, List.append_assoc, List.append_assoc,
        exportNames_append_detached comma, skipped, ih, ← List.append_assoc, ← List.flatMap_cons]

/-- The names of a file around a generated statement and in its symbols. -/
theorem exportNames_importStatement (front : Text) (symbols : List Text) (dialect : Dialect)
    (back : Text) :
    exportNames none (front ++ (importStatement symbols dialect ++ back)) =
      exportNames none (front ++ "import") ++
        (symbols.flatMap (exportNames (some ' ')) ++ exportNames (some ';') back) := by
  have text : front ++ (importStatement symbols dialect ++ back) = (front ++ "import") ++
      (' ' :: ("\x7b " ++ (List.intercalate ", " symbols ++ (importTail dialect ++ back)))) := by
    unfold importStatement importTail
    simp [Text.code]
  have detached (t : Text) : Detached (' ' :: ("\x7b " ++ t)) := by
    refine ⟨(stops_cons _ _ _).2 (by decide), fun u same => ?_⟩
    rw [← (List.cons.inj same).2]
    exact (stops_cons _ _ _).2 (by decide)
  have opening (before : Option Char) (t : Text) :
      exportNames before (' ' :: ("\x7b " ++ t)) = exportNames (some ' ') t :=
    exportNames_of_ne (by decide) (by decide) t
  rw [text, exportNames_append_detached (detached _), opening, exportNames_statement]

/-- A file exports what it exports around its import statement and between its braces. -/
theorem exportNames_importForm (front : Text) (f : ImportForm) (tail : Text) :
    (exportNames none (front ++ "import") ++
        (exportNames (some '\x7b') f.inside ++ exportNames (some ';') (dropOne ';' tail))).Sublist
      (exportNames none (front ++ (f.text ++ tail))) := by
  -- what follows `import` is cut before and after the text between the braces
  let rest : Text := f.space ++ ("from" ++ (f.indent ++ f.opening :: ("drizzle-orm/" ++ f.path)))
  have text : front ++ (f.text ++ tail) = (front ++ "import") ++ ((f.gap ++ ['\x7b']) ++
      (f.inside ++ ('\x7d' :: (rest ++ [f.closing]) ++ tail))) := by
    simp [f.text_append, rest]
  have opened : Stops isIdentifierChar ((f.gap ++ ['\x7b']) ++
      (f.inside ++ ('\x7d' :: (rest ++ [f.closing]) ++ tail))) := by
    rw [List.append_assoc]
    exact stops_isIdentifierChar_of_blanks f.gap_blank ((stops_cons _ _ _).2 (by decide))
  have closed : Stops isIdentifierChar ('\x7d' :: (rest ++ [f.closing]) ++ tail) :=
    (stops_cons _ _ _).2 (by decide)
  have atEnd : beginsLine (some f.closing) = false := by
    have quote := f.closing_quote
    simp only [isQuote, Bool.or_eq_true, decide_eq_true_eq] at quote
    rcases quote with quote | quote <;> rw [quote] <;> rfl
  have back : (exportNames (some ';') (dropOne ';' tail)).Sublist
      (exportNames (some f.closing) tail) := by
    have semicolon : beginsLine (some ';') = false := rfl
    rw [exportNames_congr (atEnd.trans semicolon.symm)]
    cases tail with
    | nil => exact List.Sublist.refl _
    | cons c tail =>
      rw [dropOne]
      split
      · next semicolon =>
        subst semicolon
        exact exportNames_sublist_append (some ';') [';'] tail
      · exact List.Sublist.refl _
  have second := exportNames_sublist_append (charBefore (some '\x7b') f.inside)
    ('\x7d' :: (rest ++ [f.closing])) tail
  rw [← List.cons_append, charBefore_concat] at second
  have first := exportNames_append_sublist closed (some '\x7b') f.inside
  have within := exportNames_sublist_append (charBefore none (front ++ "import"))
    (f.gap ++ ['\x7b']) (f.inside ++ ('\x7d' :: (rest ++ [f.closing]) ++ tail))
  rw [charBefore_concat] at within
  have whole := exportNames_append_sublist opened none (front ++ "import")
  rw [text]
  refine (List.Sublist.append (List.Sublist.refl _) ?_).trans whole
  exact (((List.Sublist.refl _).append (back.trans second)).trans first).trans within

/-- Merging imports brings in no export. -/
theorem exportNames_mergeImports_sublist (content : Text) {added : List Text}
    (words : Symbols added) (dialect : Dialect) :
    (exportNames none (mergeImports content added dialect)).Sublist (exportNames none content) := by
  have inside : beginsLine (some ' ') = false := rfl
  have quiet : added.flatMap (exportNames (some ' ')) = [] := by
    rw [List.flatMap_eq_nil_iff]
    exact fun symbol member => exportNames_plain inside (words symbol member).2
  have kept (imported : List Text) :
      ((imported ++ added).eraseDups.flatMap (exportNames (some ' '))).Sublist
        (imported.flatMap (exportNames (some ' '))) := by
    have erased := (eraseDups_sublist (imported ++ added)).flatMap (exportNames (some ' '))
    rwa [List.flatMap_append, quiet, List.append_nil] at erased
  unfold mergeImports importedSymbols
  cases found : ImportSite.find? content with
  | none =>
    have merged := exportNames_importStatement [] ([] ++ added).eraseDups dialect ('\n' :: content)
    have feed : exportNames (some ';') ('\n' :: content) = exportNames none content := by
      have atStart : beginsLine (some '\n') = beginsLine none := rfl
      rw [exportNames, exportedName?_of_ne (by decide), exportNames_congr atStart]
      rfl
    have front : exportNames none ([] ++ ("import" : Text)) = [] := by decide
    have symbols := List.sublist_nil.1 (kept [])
    rw [front, symbols, feed] at merged
    simp only [List.nil_append, List.append_assoc] at merged ⊢
    rw [show ("\n" : Text) = ['\n'] from rfl, List.singleton_append, merged]
  | some site =>
    obtain ⟨⟨front, listed, back⟩, searched, rfl⟩ := Option.map_eq_some_iff.1 found
    obtain ⟨rest, rfl, -, here⟩ := search_eq_some_iff.1 searched
    obtain ⟨f, tail, rfl, rfl, rfl⟩ := importAt?_eq_some_iff.1 here
    have symbols : ((ImportSite.symbols ⟨front, f.inside, dropOne ';' tail⟩).flatMap
        (exportNames (some ' '))).Sublist (exportNames (some '\x7b') f.inside) := by
      have pieces := exportNames_pieces_sublist (some '\x7b') (split ',' f.inside)
      rw [intercalate_split, ← List.flatMap_map] at pieces
      exact (List.filter_sublist.flatMap _).trans pieces
    dsimp only
    rw [List.append_assoc, exportNames_importStatement]
    have merged := ((kept (ImportSite.symbols ⟨front, f.inside, dropOne ';' tail⟩)).trans
      symbols).append (List.Sublist.refl (exportNames (some ';') (dropOne ';' tail)))
    exact ((List.Sublist.refl _).append merged).trans (exportNames_importForm front f tail)

/-! ## Replacing a block -/

/-- A file is its text before a table's block, the block, and the text after it. -/
theorem cut_of_find? {content table : Text} {site : TableSite}
    (found : TableSite.find? content table = some site) :
    content = site.front ++ site.block ++ site.back := by
  obtain ⟨⟨front, block, back⟩, searched, rfl⟩ := Option.map_eq_some_iff.1 found
  obtain ⟨rest, rfl, -, here⟩ := search_eq_some_iff.1 searched
  obtain ⟨-, h, inside, c, -, rfl, -, -⟩ := tableBlockAt?_eq_some_iff.1 here
  simp

/-- What a file with the table exports before, in and after the table's block. -/
theorem exportNames_of_find? {content table : Text} {site : TableSite}
    (found : TableSite.find? content table = some site) :
    exportNames none content = exportNames none site.front ++ exportNames none site.block ++
      exportNames none site.back := by
  obtain ⟨begins, ends⟩ := lines_of_find? found
  rw [cut_of_find? found]
  exact exportNames_lines begins ends

/-- A file with a replaced block exports what it did outside of it, and what the new block does. -/
theorem exportNames_replaceBlock {content table : Text} {site : TableSite}
    (found : TableSite.find? content table = some site) (block : Text) :
    exportNames none (replaceBlock content table block) = exportNames none site.front ++
      exportNames none block ++ exportNames none site.back := by
  obtain ⟨begins, ends⟩ := lines_of_find? found
  unfold replaceBlock
  rw [found]
  exact exportNames_lines begins ends

theorem exportNames_withoutCalledEnums_sublist (content table : Text) :
    (exportNames none (withoutCalledEnums content table)).Sublist (exportNames none content) := by
  unfold withoutCalledEnums
  split
  · exact List.Sublist.refl _
  · exact exportNames_foldl_dropEnumExport_sublist _ _

/-! ## Regenerating a model -/

/-- The block of the table exports the name. -/
def declaresName (content table name : Text) : Bool :=
  (TableSite.find? content table).any fun site => (exportNames none site.block).contains name

/-- A name has room for a new export in a file if nothing is exported under it there but the table
    that is replaced, or an enum that the table's block calls and whose export, with its line feed,
    is one line. -/
def HasRoom (content table name : Text) : Prop :=
  name ∉ exportNames none content ∨
    declaresName (withoutCalledEnums content table) table name = true ∨
      (callsEnum content table name = true ∧ hasEnumExport name content = true)

instance (content table name : Text) : Decidable (HasRoom content table name) :=
  inferInstanceAs (Decidable (_ ∨ _ ∨ _ ∧ _))

theorem ne_nil_of_mem_enumCalls {name s : Text} (called : name ∈ enumCalls s) : name ≠ [] := by
  unfold enumCalls at called
  rw [List.mem_mergeSort, List.mem_eraseDups, enumCallsAfter_eq] at called
  have stem := (List.mem_filter.1 called).2
  rintro rfl
  exact absurd stem (by decide)

/-- An enum that a table's block calls is not exported any more once the called enums are dropped,
    if its export was recognised. -/
theorem not_mem_exportNames_withoutCalledEnums {content table name : Text}
    (apart : ExportsApart content) (called : callsEnum content table name = true)
    (exported : hasEnumExport name content = true) :
    name ∉ exportNames none (withoutCalledEnums content table) := by
  unfold callsEnum at called
  cases found : TableSite.find? content table with
  | none =>
    rw [found] at called
    cases called
  | some site =>
    have member : name ∈ enumCalls site.block := by simpa [found] using called
    unfold withoutCalledEnums
    rw [found]
    exact not_mem_exportNames_foldl_dropEnumExport (ne_nil_of_mem_enumCalls member)
      (fun _ => all_isWord_of_mem_enumCalls) member apart exported

/-- A name with room is not exported outside of the replaced block once the called enums are
    dropped. -/
theorem HasRoom.not_mem {content table name : Text} (room : HasRoom content table name)
    (apart : ExportsApart content) {site : TableSite}
    (found : TableSite.find? (withoutCalledEnums content table) table = some site) :
    name ∉ exportNames none site.front ++ exportNames none site.back := by
  have sublist := exportNames_withoutCalledEnums_sublist content table
  have names := exportNames_of_find? found
  have outside : exportNames none site.front ++ exportNames none site.back ⊆
      exportNames none (withoutCalledEnums content table) := by
    rw [names]
    intro other member
    rcases List.mem_append.1 member with inside | inside <;> simp [inside]
  rcases room with absent | declared | ⟨called, exported⟩
  · exact fun member => absent (sublist.subset (outside member))
  · have inBlock : name ∈ exportNames none site.block := by
      simpa [declaresName, found] using declared
    have distinct := sublist.nodup apart
    rw [names, List.append_assoc, List.nodup_append, List.nodup_append] at distinct
    obtain ⟨-, ⟨-, -, back⟩, front⟩ := distinct
    intro member
    rcases List.mem_append.1 member with before | after
    · exact front name before name (by simp [inBlock]) rfl
    · exact back name inBlock name after rfl
  · have gone := not_mem_exportNames_withoutCalledEnums apart called exported
    exact fun member => gone (outside member)

/-- No table is exported under the name of an enum. -/
theorem AcceptedModel.camelPlural_ne_enumName {names : ModelNames} {fields : List Field}
    (accepted : AcceptedModel names fields) (other : ModelNames) (f : Field) :
    names.camelPlural ≠ enumName other f := by
  obtain ⟨name, rfl, line, valid⟩ := accepted.named
  obtain ⟨stem, plural⟩ := ModelNames.camelPlural_ends line valid
  rw [plural]
  intro same
  have letter := congrArg List.getLast? same
  simp [enumName] at letter

/-- The definitions of an accepted model export different names. -/
theorem exportsApart_definitions {names : ModelNames} {fields : List Field}
    (accepted : AcceptedModel names fields) (dialect : Dialect) (options : Options) :
    ExportsApart (definitions names fields dialect options) := by
  have oneLine := accepted.oneLineModel
  unfold ExportsApart
  rw [exportNames_definitions oneLine, List.nodup_append]
  refine ⟨nodup_enumNames oneLine accepted.fitTogether dialect, by simp, ?_⟩
  rintro enum listed other last rfl
  obtain ⟨f, -, named⟩ := List.mem_map.1 listed
  exact accepted.camelPlural_ne_enumName names f (named.trans (List.mem_singleton.1 last)).symm

/-- Replacing a model keeps the exported names apart, if the names of the new definitions have room
    in the file. -/
theorem replace_keeps_exportsApart {content result : Text} {names : ModelNames}
    {fields : List Field} {dialect : Dialect} {options : Options}
    (replaced : replace content names fields dialect options = .ok result)
    (apart : ExportsApart content)
    (own : AcceptedModel names fields ∨ ExportsApart (definitions names fields dialect options))
    (room : ∀ name ∈ exportNames none (definitions names fields dialect options),
      HasRoom content names.table name) : ExportsApart result := by
  have ownApart := own.elim (fun accepted => exportsApart_definitions accepted dialect options) id
  have words := Catalogue.symbols_requiredImports fields dialect options
  have without := (exportNames_withoutCalledEnums_sublist content names.table).nodup apart
  rw [(replace_eq_ok_iff.1 replaced).2]
  refine (exportNames_mergeImports_sublist _ words dialect).nodup ?_
  unfold swapped
  cases found : TableSite.find? (withoutCalledEnums content names.table) names.table with
  | none =>
    unfold replaceBlock
    rwa [found]
  | some site =>
    rw [exportNames_of_find? found] at without
    have outside : (exportNames none site.front ++ exportNames none site.back).Nodup :=
      without.sublist ((List.sublist_append_left _ _).append (List.Sublist.refl _))
    rw [exportNames_replaceBlock found, List.append_assoc,
      (List.perm_append_comm_assoc _ _ _).nodup_iff, List.nodup_append]
    refine ⟨ownApart, outside, fun name new other old same => ?_⟩
    subst same
    exact (room name new).not_mem apart found old

/-- A file with the table `posts`, which calls the enum `postStatusEnum`; the export of the enum is
    laid out as given. -/
def statusSchema (enum : String) : Text :=
  enum ++ Text.code "\n\nexport const posts = pgTable(\"posts\", ⟦\n" ++
    Text.code "  status: postStatusEnum(\"status\"),\n⟧);\n"

/-- The export of `postStatusEnum` on one line. -/
def enumOnOneLine : String :=
  "export const postStatusEnum = pgEnum(\"post_status\", [\"a\", \"b\"]);"

/-- The export of `postStatusEnum` with a line for each value. -/
def enumOnFourLines : String :=
  "export const postStatusEnum = pgEnum(\"post_status\", [\n  \"a\",\n  \"b\",\n]);"

theorem acceptedModel_post : AcceptedModel (ModelNames.ofName "post") [statusField] where
  named := ⟨"post", rfl, by decide, by decide +kernel⟩
  read := ⟨["status:enum:a,b"], false, by decide +kernel⟩
  oneLine := by decide +kernel

theorem replace_status_exportsApart :
    ∃ result, replace (statusSchema enumOnOneLine) (ModelNames.ofName "post") [statusField]
      .postgresql { noTimestamps := true } = .ok result ∧ ExportsApart result := by
  have found : (TableSite.find? (statusSchema enumOnOneLine)
      (ModelNames.ofName "post").table).isSome = true := by decide +kernel
  have replaced : replace (statusSchema enumOnOneLine) (ModelNames.ofName "post") [statusField]
      .postgresql { noTimestamps := true } = .ok _ := replace_eq_ok_iff.2 ⟨found, rfl⟩
  exact ⟨_, replaced, replace_keeps_exportsApart replaced (by decide +kernel)
    (.inl acceptedModel_post) (by decide +kernel)⟩

/-- The export of an enum that goes over several lines is not dropped, so the new export of the
    enum is a second one. -/
theorem replace_status_exports_twice :
    ExportsApart (statusSchema enumOnFourLines) ∧
      (∀ name ∈ exportNames none (definitions (ModelNames.ofName "post") [statusField] .postgresql
          { noTimestamps := true }),
        declaresName (statusSchema enumOnFourLines) (ModelNames.ofName "post").table name = true ∨
          callsEnum (statusSchema enumOnFourLines) (ModelNames.ofName "post").table name = true) ∧
      (replace (statusSchema enumOnFourLines) (ModelNames.ofName "post") [statusField] .postgresql
        { noTimestamps := true }).map (fun result => decide (ExportsApart result)) = .ok false := by
  decide +kernel

end Groundwork.Schema
