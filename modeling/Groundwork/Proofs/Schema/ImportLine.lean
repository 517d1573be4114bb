import Groundwork.Proofs.Naming.Spelling
import Groundwork.Proofs.Schema.Statement
import Groundwork.Proofs.Text.Lines
import Groundwork.Proofs.Text.Trim
import Groundwork.Schema.Import

/-!
# The generated import statement

The statement that imports symbols is read back as it was written (`importAt?_importStatement`), so
merging symbols into a file that begins with it gives the statement with all symbols, each once, and
the same text after it (`mergeImports_importStatement`).
-/

namespace Groundwork.Schema

open Text

/-! ## How an import may be written -/

theorem braced?_eq_some_iff {s inside rest : Text} :
    braced? s = some (inside, rest) ↔
      inside ≠ [] ∧ '\x7d' ∉ inside ∧ s = '\x7b' :: (inside ++ '\x7d' :: rest) := by
  unfold braced?
  constructor
  · intro found
    split at found
    · cases found
    · next opened after =>
      obtain rfl := after?_eq_some_iff.1 after
      split at found
      · cases found
      · cases found
      · next symbols c tail nonempty cut =>
        obtain rfl : c = '\x7d' := by simpa using (span_eq_iff.1 cut).2.2
        simp only [Option.some.injEq, Prod.mk.injEq] at found
        obtain ⟨rfl, rfl⟩ := found
        obtain ⟨same, noBrace⟩ := span_ne_eq_iff.1 cut
        exact ⟨nonempty, noBrace, by rw [same]; rfl⟩
  · rintro ⟨nonempty, noBrace, rfl⟩
    have opened : after? ['\x7b'] ('\x7b' :: (inside ++ '\x7d' :: rest)) =
      some (inside ++ '\x7d' :: rest) := after?_eq_some_iff.2 rfl
    rw [opened]
    simp only [span_ne_eq_iff.2 ⟨rfl, noBrace⟩]

theorem afterModule?_eq_some_iff {s rest : Text} :
    afterModule? s = some rest ↔ ∃ opening path closing, isQuote opening = true ∧ path ≠ [] ∧
      path.all (fun c => !isQuote c) = true ∧ isQuote closing = true ∧
        s = opening :: ("drizzle-orm/" ++ (path ++ closing :: rest)) := by
  unfold afterModule?
  simp only [Option.bind_eq_bind, Option.bind_eq_some_iff, afterQuote?_eq_some_iff,
    after?_eq_some_iff]
  constructor
  · rintro ⟨_, ⟨opening, opens, rfl⟩, _, rfl, found⟩
    split at found
    · cases found
    · next path other nonempty cut =>
      obtain ⟨closing, closes, rfl⟩ := afterQuote?_eq_some_iff.1 found
      obtain ⟨rfl, all, -⟩ := span_eq_iff.1 cut
      exact ⟨opening, path, closing, opens, nonempty, all, closes, rfl⟩
  · rintro ⟨opening, path, closing, opens, nonempty, all, closes, rfl⟩
    refine ⟨_, ⟨opening, opens, rfl⟩, _, rfl, ?_⟩
    have cut : (path ++ closing :: rest).span (fun c => !isQuote c) = (path, closing :: rest) :=
      span_eq_iff.2 ⟨rfl, all, (stops_cons _ _ _).2 (by simp [closes])⟩
    rw [cut]
    cases path with
    | nil => exact absurd rfl nonempty
    | cons c path => exact afterQuote?_eq_some_iff.2 ⟨closing, closes, rfl⟩

/-- An import statement without its semicolon. -/
structure ImportForm where
  gap : Text
  /-- What stands between the braces. -/
  inside : Text
  space : Text
  indent : Text
  opening : Char
  /-- The name of the module after that of its package. -/
  path : Text
  closing : Char
  gap_blank : gap.all isBlank = true
  inside_nonempty : inside ≠ []
  inside_noBrace : '\x7d' ∉ inside
  space_blank : space.all isBlank = true
  indent_blank : indent.all isBlank = true
  opening_quote : isQuote opening = true
  path_nonempty : path ≠ []
  path_noQuote : path.all (fun c => !isQuote c) = true
  closing_quote : isQuote closing = true

/-- The text of an import statement without its semicolon. -/
def ImportForm.text (f : ImportForm) : Text :=
  "import" ++ (f.gap ++ '\x7b' :: (f.inside ++ '\x7d' :: (f.space ++ ("from" ++ (f.indent ++
    f.opening :: ("drizzle-orm/" ++ (f.path ++ [f.closing])))))))

theorem ImportForm.text_append (f : ImportForm) (s : Text) :
    f.text ++ s = "import" ++ (f.gap ++ '\x7b' :: (f.inside ++ '\x7d' :: (f.space ++ ("from" ++
      (f.indent ++ f.opening :: ("drizzle-orm/" ++ (f.path ++ f.closing :: s))))))) := by
  unfold text
  simp

/-- What is recognised as an import statement. -/
theorem importAt?_eq_some_iff {s inside rest : Text} :
    importAt? s = some (inside, rest) ↔ ∃ (f : ImportForm) (tail : Text),
      s = f.text ++ tail ∧ inside = f.inside ∧ rest = dropOne ';' tail := by
  unfold importAt?
  simp only [Option.bind_eq_bind, Option.bind_eq_some_iff, after?_eq_some_iff, Option.pure_def,
    Option.some.injEq, Prod.mk.injEq, Prod.exists, braced?_eq_some_iff, afterModule?_eq_some_iff]
  constructor
  · rintro ⟨_, rfl, symbols, afterBrace, ⟨nonempty, noBrace, brace⟩, afterFrom, from', tail,
      ⟨opening, path, closing, opens, pathNonempty, pathAll, closes, quote⟩, rfl, rfl⟩
    obtain ⟨gap, rfl, gapBlank, -⟩ := dropBlanks_eq_iff.1 brace
    obtain ⟨space, rfl, spaceBlank, -⟩ := dropBlanks_eq_iff.1 from'
    obtain ⟨indent, rfl, indentBlank, -⟩ := dropBlanks_eq_iff.1 quote
    refine ⟨⟨gap, symbols, space, indent, opening, path, closing, gapBlank, nonempty, noBrace,
      spaceBlank, indentBlank, opens, pathNonempty, pathAll, closes⟩, tail, ?_, rfl, rfl⟩
    rw [ImportForm.text_append]
  · rintro ⟨f, tail, rfl, rfl, rfl⟩
    rw [f.text_append]
    refine ⟨_, rfl, f.inside, _, ⟨f.inside_nonempty, f.inside_noBrace, dropBlanks_eq_iff.2
      ⟨f.gap, rfl, f.gap_blank, (stops_cons _ _ _).2 (by decide)⟩⟩, _, dropBlanks_eq_iff.2
      ⟨f.space, rfl, f.space_blank, (stops_cons _ _ _).2 (by decide)⟩, tail,
      ⟨f.opening, f.path, f.closing, f.opening_quote, f.path_nonempty, f.path_noQuote,
        f.closing_quote, dropBlanks_eq_iff.2 ⟨f.indent, rfl, f.indent_blank, ?_⟩⟩, rfl, rfl⟩
    simp [not_isBlank_of_isQuote f.opening_quote]

/-- A symbol that an import statement can list: it is not empty, has no blanks at its ends, and
    neither the comma between symbols nor the brace after them stands in it. -/
structure Listable (symbol : Text) : Prop where
  nonempty : symbol ≠ []
  trimmed : trim symbol = symbol
  noComma : ',' ∉ symbol
  noBrace : '\x7d' ∉ symbol

/-- Symbols that are plain words. -/
def Symbols (symbols : List Text) : Prop := ∀ symbol ∈ symbols, symbol ≠ [] ∧ Plain symbol

/-- The text between the braces of a generated statement. -/
def listed (symbols : List Text) : Text := " " ++ List.intercalate ", " symbols ++ " "

theorem not_isBlank_of_isPlain {c : Char} (plain : isPlain c = true) : isBlank c = false := by
  rw [← Bool.not_eq_true]
  intro blank
  have letter := not_isWord_of_isBlank blank
  unfold isPlain at plain
  simp [isWord, plain] at letter

theorem trim_of_plain {s : Text} (plain : Plain s) : trim s = s := by
  have whole {t : Text} (letters : Plain t) : dropBlanks t = t := by
    refine dropBlanks_eq_iff.2 ⟨[], rfl, rfl, ?_⟩
    cases t with
    | nil => rfl
    | cons c t => exact (stops_cons _ _ _).2 (not_isBlank_of_isPlain (letters c (by simp)))
  rw [trim, whole plain, whole fun c member => plain c (List.mem_reverse.1 member),
    List.reverse_reverse]

theorem Symbols.listable {symbols : List Text} (good : Symbols symbols) :
    ∀ symbol ∈ symbols, Listable symbol := by
  intro symbol member
  obtain ⟨nonempty, plain⟩ := good symbol member
  exact ⟨nonempty, trim_of_plain plain, plain.not_mem rfl, plain.not_mem rfl⟩

/-! ## Reading the symbols -/

theorem Listable.trim_around {symbol gap space : Text} (good : Listable symbol)
    (before : gap.all isBlank = true) (after : space.all isBlank = true) :
    trim (gap ++ symbol ++ space) = symbol :=
  (Text.trim_around symbol before after).trans good.trimmed

theorem map_trim_split_listed {first : Text} {symbols : List Text}
    (good : ∀ symbol ∈ first :: symbols, Listable symbol) :
    (split ',' (listed (first :: symbols))).map trim = first :: symbols := by
  have blank : (" " : Text).all isBlank = true := rfl
  induction symbols generalizing first with
  | nil =>
    have one := good first (by simp)
    have text : listed [first] = " " ++ first ++ " " := by simp [listed]
    rw [text, split_of_not_mem (by simp [one.noComma]), List.map_cons, List.map_nil,
      one.trim_around blank blank]
  | cons next symbols ih =>
    have one := good first (by simp)
    have text : listed (first :: next :: symbols) =
        (" " ++ first ++ ([] : Text)) ++ ',' :: listed (next :: symbols) := by
      unfold listed
      rw [List.intercalate_cons_cons]
      simp
    rw [text, split_append, split_of_not_mem (by simp [one.noComma]), List.singleton_append,
      List.map_cons, one.trim_around blank rfl,
      ih fun symbol member => good symbol (List.mem_cons_of_mem _ member)]

/-- The symbols between the braces of a generated statement are read back. -/
theorem symbols_listed {symbols : List Text} (good : ∀ symbol ∈ symbols, Listable symbol) :
    ((split ',' (listed symbols)).map trim).filter (fun symbol => !symbol.isEmpty) = symbols := by
  cases symbols with
  | nil => rfl
  | cons first symbols =>
    rw [map_trim_split_listed good, List.filter_eq_self]
    intro symbol member
    simpa using (good symbol member).nonempty

/-! ## Reading the statement -/

theorem not_mem_listed {symbols : List Text} (good : ∀ symbol ∈ symbols, Listable symbol) :
    '\x7d' ∉ listed symbols := by
  intro member
  unfold listed at member
  rcases List.mem_append.1 member with front | space
  · rcases List.mem_append.1 front with space | inner
    · simp at space
    · rcases mem_intercalate inner with gap | ⟨symbol, given, inside⟩
      · simp at gap
      · exact (good symbol given).noBrace inside
  · simp at space

theorem module_eq (dialect : Dialect) : ∃ path, dialect.module = "drizzle-orm/" ++ path ∧
    path ≠ [] ∧ path.all (fun c => !isQuote c) = true := by
  cases dialect
  · exact ⟨"sqlite-core", rfl, by simp, by decide⟩
  · exact ⟨"pg-core", rfl, by simp, by decide⟩
  · exact ⟨"mysql-core", rfl, by simp, by decide⟩

/-- The characters of generated import statements. -/
def isImportChar (c : Char) : Bool := isPlain c || (Text.code " ⟦⟧,\";-/").contains c

theorem all_importStatement {symbols : List Text} (good : Symbols symbols) (dialect : Dialect) :
    (importStatement symbols dialect).all isImportChar = true := by
  have path : dialect.module.all isImportChar = true := by cases dialect <;> rfl
  have inner : (List.intercalate ", " symbols).all isImportChar = true := by
    rw [List.all_eq_true]
    intro c member
    rcases mem_intercalate member with gap | ⟨symbol, given, inside⟩
    · exact List.all_eq_true.1 (rfl : (", " : Text).all isImportChar = true) c gap
    · unfold isImportChar
      rw [(good symbol given).2 c inside]
      rfl
  unfold importStatement
  simp only [List.all_append, path, inner]
  rfl

theorem not_mem_importStatement {symbols : List Text} (good : Symbols symbols) (dialect : Dialect)
    {c : Char} (other : isImportChar c = false) : c ∉ importStatement symbols dialect := by
  intro member
  rw [List.all_eq_true.1 (all_importStatement good dialect) c member] at other
  exact absurd other (by decide)

/-- A generated statement is an import statement with a semicolon after it. -/
theorem importStatement_eq {symbols : List Text} (good : ∀ symbol ∈ symbols, Listable symbol)
    (dialect : Dialect) :
    ∃ f : ImportForm, f.inside = listed symbols ∧
      importStatement symbols dialect = f.text ++ [';'] := by
  obtain ⟨path, module', nonempty, noQuote⟩ := module_eq dialect
  refine ⟨{
    gap := " ", inside := listed symbols, space := " ", indent := " ", opening := '"', path
    closing := '"', gap_blank := rfl, inside_nonempty := by simp [listed]
    inside_noBrace := not_mem_listed good
    space_blank := rfl, indent_blank := rfl, opening_quote := rfl, path_nonempty := nonempty
    path_noQuote := noQuote, closing_quote := rfl }, rfl, ?_⟩
  unfold importStatement ImportForm.text
  rw [module']
  simp [listed, Text.code]

theorem importAt?_importStatement {symbols : List Text}
    (good : ∀ symbol ∈ symbols, Listable symbol) (dialect : Dialect) (rest : Text) :
    importAt? (importStatement symbols dialect ++ rest) = some (listed symbols, rest) := by
  obtain ⟨f, inside, text⟩ := importStatement_eq good dialect
  refine importAt?_eq_some_iff.2 ⟨f, ';' :: rest, ?_, inside.symm, rfl⟩
  rw [text, List.append_assoc, List.singleton_append]

/-- Merging symbols into a file that begins with a generated statement changes that statement. -/
theorem mergeImports_importStatement {symbols : List Text} (good : Symbols symbols)
    (dialect : Dialect) (rest : Text) (added : List Text) :
    mergeImports (importStatement symbols dialect ++ rest) added dialect =
      importStatement (symbols ++ added).eraseDups dialect ++ rest := by
  have found : ImportSite.find? (importStatement symbols dialect ++ rest) =
      some ⟨[], listed symbols, rest⟩ := by
    unfold ImportSite.find?
    rw [search_here (importAt?_importStatement good.listable dialect rest)]
    rfl
  unfold mergeImports importedSymbols
  rw [found]
  simp only [ImportSite.symbols, symbols_listed good.listable, List.nil_append]

end Groundwork.Schema
