import Groundwork.Yaml.Scalar
import Groundwork.Yaml.Cursor

/-!
# Writing scalars

A text is written plain if it reads back as that text, else between single quotes, and between
double quotes if it holds characters that have to be escaped. Lines are broken at a single space
after column 80.
-/

namespace Groundwork.Yaml

/-- A line is broken where it exceeds this column. -/
def bestWidth : Nat := 80

/-- Indentation of the further lines of a scalar. -/
def hangingIndent : Text := "\n  "

/-- The column after the indentation of a further line. -/
def hangingColumn : Nat := 2

/-- The text holds a character that has to be escaped: one that is neither a line feed nor a
    printable character of ASCII. -/
def needsEscape (s : Text) : Bool := s.any fun c => !(c = '\n' || (' ' ≤ c && c ≤ '~'))

/-- A line end next to a space. -/
def hasSpaceAtBreak : (spaceFirst : Bool) → Text → Bool
  | spaceFirst, c :: d :: s =>
    (if spaceFirst then c = ' ' && d = '\n' else c = '\n' && d = ' ')
      || hasSpaceAtBreak spaceFirst (d :: s)
  | _, _ => false

/-- A character that means something else at the front of a scalar. -/
def isLeadingMark (c : Char) : Bool :=
  "#,[]&*!|>'\"%@`".toList.contains c || c = '\x7b' || c = '\x7d'

/-- The characters before a place and at it, read so that a mark within a plain scalar shows: a
    colon before a blank, or a number sign after one. -/
def hasInnerMark : (afterBlank : Bool) → Text → Bool
  | _, [] => false
  | afterBlank, c :: s =>
    (c = ':' && endsWord s.head?) || (c = '#' && afterBlank)
      || hasInnerMark (endsWord (some c)) s

/-- A plain scalar of this form would mean something else in a block. -/
def hasMark (s : Text) : Bool :=
  match s with
  | [] => false
  | c :: rest =>
    (Text.after? "---" s).isSome || (Text.after? "..." s).isSome || isLeadingMark c
      || ((c = '?' || c = ':' || c = '-') && endsWord rest.head?)
      || hasInnerMark (endsWord (some c)) rest

/-- A space or a line end at the given end of a text. -/
def isOuterBlank (c : Option Char) : Bool := c = some ' ' || c = some '\n'

/-- The text can stand without quotes. -/
def isPlain (s : Text) : Bool :=
  kindOf s = .text && !needsEscape s && !s.contains '\n' && !hasMark s
    && !isOuterBlank s.head? && !isOuterBlank s.getLast?

/-- The text can stand between single quotes. -/
def isSingleQuotable (s : Text) : Bool :=
  !needsEscape s && !hasSpaceAtBreak true s && !hasSpaceAtBreak false s

/-- A text cut into runs of spaces, runs of line feeds and runs of other characters. -/
def runs (s : Text) : List Text :=
  let kind (c : Char) : Nat := if c = ' ' then 0 else if c = '\n' then 1 else 2
  s.splitBy fun c d => kind c = kind d

/-- Runs written from a column on, with lines broken at single spaces. A run of line feeds has one
    line feed more, so that it is not read as a space. With `quoted`, no line is broken at the ends
    of the text, and single quotes are doubled. -/
def writeRuns (quoted : Bool) : (column : Nat) → (first : Bool) → List Text → Text
  | _, _, [] => []
  | column, first, run :: rest =>
    match run with
    | ' ' :: more =>
      if more.isEmpty && bestWidth < column && !(quoted && (first || rest.isEmpty)) then
        hangingIndent ++ writeRuns quoted hangingColumn false rest
      else run ++ writeRuns quoted (column + run.length) false rest
    | '\n' :: _ => run ++ hangingIndent ++ writeRuns quoted hangingColumn false rest
    | _ =>
      let written := if quoted then run.flatMap fun c => if c = '\'' then "''" else [c] else run
      written ++ writeRuns quoted (column + written.length) false rest

/-- Characters that are escaped by a letter. -/
def letterEscapes : List (Char × Char) :=
  [('\x00', '0'), ('\x07', 'a'), ('\x08', 'b'), ('\t', 't'), ('\n', 'n'), ('\x0b', 'v'),
   ('\x0c', 'f'), ('\r', 'r'), ('\x1b', 'e'), ('"', '"'), ('\\', '\\'), ('\x85', 'N'),
   ('\xa0', '_'), ('\u2028', 'L'), ('\u2029', 'P')]

/-- A number in base 16 with `digits` digits. -/
def hexText (digits n : Nat) : Text :=
  let written := (Nat.toDigits 16 n).map Char.toUpper
  List.replicate (digits - written.length) '0' ++ written

/-- A character between double quotes, if it cannot stand for itself. -/
def escaped? (c : Char) : Option Text :=
  match letterEscapes.lookup c with
  | some letter => some ['\\', letter]
  | none =>
    if ' ' ≤ c && c ≤ '~' then none
    else if c.toNat ≤ 0xFF then some ("\\x" ++ hexText 2 c.toNat)
    else if c.toNat ≤ 0xFFFF then some ("\\u" ++ hexText 4 c.toNat)
    else some ("\\U" ++ hexText 8 c.toNat)

/-- A text between double quotes from a column on. `pending` counts the characters that were
    written since the last escape or break and do not count in `column` yet; `first` holds at the
    front of the text. A line is broken before a space, or next to an escape, by a backslash at
    its end; a space at the start of the next line has a backslash too. -/
def writeDouble : (column pending : Nat) → (first : Bool) → Text → Text
  | _, _, _, [] => []
  | column, pending, first, c :: s =>
    let mayBreak := !first && !s.isEmpty
    match escaped? c with
    | some written =>
      let column := column + pending + written.length
      if mayBreak && bestWidth < column - 1 then
        written ++ "\\" ++ hangingIndent
          ++ (if s.head? = some ' ' then
              "\\" ++ writeDouble (hangingColumn + 1) 0 false s
            else writeDouble hangingColumn 0 false s)
      else written ++ writeDouble column 0 false s
    | none =>
      if mayBreak && (c = ' ' || pending = 0) && bestWidth < column + pending then
        "\\" ++ hangingIndent
          ++ (if c = ' ' then "\\" ++ c :: writeDouble (hangingColumn + 1) 1 false s
            else c :: writeDouble hangingColumn 1 false s)
      else c :: writeDouble column (pending + 1) false s

/-- A text as the value of a key, which ends at a column, with the space before it. -/
def writeText (column : Nat) (s : Text) : Text :=
  if isPlain s then ' ' :: writeRuns false (column + 1) true (runs s)
  else if isSingleQuotable s then " '" ++ writeRuns true (column + 2) true (runs s) ++ "'"
  else " \"" ++ writeDouble (column + 2) 0 true s ++ "\""

/-- A line that gives a key a text. The key is a plain word. -/
def textEntry (key value : Text) : Text :=
  key ++ ":" ++ writeText (key.length + 1) value ++ "\n"

/-- A line that gives a key a truth value. -/
def truthEntry (key : Text) (value : Bool) : Text :=
  key ++ ": " ++ (if value then "true" else "false" : Text) ++ "\n"

end Groundwork.Yaml
