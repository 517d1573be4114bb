import Groundwork.Schema.Import
import Groundwork.Text.Word

/-!
# Tables in a schema file

Where a table stands in a schema file, which may have been laid out by hand. A table's block begins
at a line `export const posts = sqliteTable("posts"` and ends with the first line that begins with
the closing bracket and parentheses of the call. Both kinds of quotes and any blanks are accepted.

`hasTable` is the looser test: it asks only for the call.
-/

namespace Groundwork.Schema

/-- What follows a quoted table name. -/
def afterTableName? (table s : Text) : Option Text := do
  let s ← afterQuote? (Text.dropBlanks s)
  let s ← Text.after? table s
  afterQuote? s

/-- The text calls the builder of a table with the given name; `before` is the character before
    the text, which ends in the last part of the builder's name. -/
def tableCallAt? (table : Text) (before : Option Char) (s : Text) : Option Unit :=
  if before.any Text.isWord then do
    let s ← Text.after? "Table(" s
    let _ ← afterTableName? table s
    return ()
  else none

/-- Some builder of tables is called with the given name. -/
def hasTable (content table : Text) : Bool :=
  (Text.search (tableCallAt? table) none content).isSome

/-- What follows a word and blanks; the word has at least one character. -/
def afterWord? (s : Text) : Option Text :=
  match Text.spanWord s with
  | ([], _) => none
  | (_, rest) => some rest

/-- What follows the opening of a table's block. -/
def afterTableHeader? (table s : Text) : Option Text := do
  let s ← Text.after? "export const " s
  let s ← afterWord? s
  let s ← Text.after? "=" (Text.dropBlanks s)
  match Text.spanWord (Text.dropBlanks s) with
  | (builder, s) =>
    if (Text.before? "Table" builder).any fun stem => !stem.isEmpty then do
      let s ← Text.after? "(" s
      afterTableName? table s
    else none

/-- The end of the line that closes a block: spaces and tabs, then a line feed or the end of the
    text. -/
def atLineEnd (s : Text) : Bool :=
  match s with
  | [] => true
  | c :: _ => c = '\n'

/-- A line that closes a call: a bracket, parentheses, perhaps a semicolon, and nothing else. The
    result is the line's text and what follows. -/
def closingLine? (before : Option Char) (s : Text) : Option (Text × Text) :=
  if !Text.beginsLine before then none
  else match s with
    | [] => none
    | c :: s =>
      if c = '\x7d' || c = ']' then
        match s.span (· = ')') with
        | ([], _) => none
        | (parens, s) =>
          let (semicolon, s) := match s with
            | ';' :: s => ([';'], s)
            | _ => ([], s)
          let (blanks, s) := s.span Text.isSpaceOrTab
          if atLineEnd s then some (c :: parens ++ semicolon ++ blanks, s) else none
      else none

/-- A table's block at the front of a text that begins a line: the block and what follows it. -/
def tableBlockAt? (table : Text) (before : Option Char) (s : Text) : Option (Text × Text) :=
  if !Text.beginsLine before then none
  else do
    let body ← afterTableHeader? table s
    -- a quotation mark precedes the body, so the body does not begin a line
    let (inside, closing, rest) ← Text.search closingLine? (some '"') body
    let header := s.take (s.length - body.length)
    return (header ++ inside ++ closing, rest)

/-- The first block of a table in a file. -/
structure TableSite where
  /-- The text before the block. -/
  front : Text
  block : Text
  /-- The text after the block. -/
  back : Text
  deriving DecidableEq, Repr

/-- The first block of a table. -/
def TableSite.find? (content table : Text) : Option TableSite :=
  (Text.search (tableBlockAt? table) none content).map fun (front, block, back) =>
    ⟨front, block, back⟩

/-- The names ending in `Enum` that a text calls; `word` holds the word characters right before
    the text, in reverse. -/
def enumCallsAfter (word : Text) : Text → List Text
  | [] => []
  | c :: s =>
    if Text.isWord c then enumCallsAfter (c :: word) s
    else
      let name := word.reverse
      if c = '(' && (Text.before? "Enum" name).any fun stem => !stem.isEmpty then
        name :: enumCallsAfter [] s
      else enumCallsAfter [] s

/-- The names ending in `Enum` that a text calls, each once, in order. -/
def enumCalls (s : Text) : List Text :=
  (enumCallsAfter [] s).eraseDups.mergeSort Text.le

/-- What follows an empty line at the front of the text, or the text itself. -/
def dropEmptyLine (s : Text) : Text :=
  match s.dropWhile Text.isSpaceOrTab with
  | '\n' :: rest => rest
  | _ => s

/-- An export of the enum at the front of a text that begins a line. It ends with its line, and an
    empty line after it belongs to it. The result is what follows. -/
def afterEnumExport? (name : Text) (before : Option Char) (s : Text) : Option Text :=
  if !Text.beginsLine before then none
  else do
    let s ← Text.after? "export const " s
    let s ← Text.after? name s
    let s ← Text.after? "=" (Text.dropBlanks s)
    let s ← Text.after? "pgEnum(" (Text.dropBlanks s)
    match s.span (· ≠ '\n') with
    | (_, []) => none
    | (line, _ :: rest) =>
      if Text.endsWith ");" (line.reverse.dropWhile Text.isSpaceOrTab).reverse then
        some (dropEmptyLine rest)
      else none

/-- The content without the first export of the enum. -/
def dropEnumExport (content name : Text) : Text :=
  match Text.search (afterEnumExport? name) none content with
  | none => content
  | some (front, back) => front ++ back

end Groundwork.Schema
