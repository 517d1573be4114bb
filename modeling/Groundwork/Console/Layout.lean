import Groundwork.Text.Blank
import Groundwork.Text.Width

/-!
# Laying out text in columns

Text that is printed into a number of columns becomes lines. Tabs are filled up to tab stops, and a
line that is too wide is broken before a word, or within a word that is wider than a line.
-/

namespace Groundwork.Console

/-- Columns between two tab stops. -/
def tabWidth : Nat := 8

/-- Parts of a line with tabs between them, put together from a column on: each but the last is
    followed by a space and filled up to the next tab stop. -/
def fillTabs (column : Nat) : List Text → Text
  | [] => []
  | [last] => last
  | part :: parts =>
    let part := part ++ " "
    let column := column + Text.width part
    let filling := (tabWidth - column % tabWidth) % tabWidth
    part ++ List.replicate filling ' ' ++ fillTabs (column + filling) parts

/-- A line with its tabs filled up to the next tab stop. -/
def expandTabs (line : Text) : Text := fillTabs 0 (Text.split '\t' line)

/-- The words of a line, each with the blanks after it; the first one also with those before it.
    Every word takes a character, so there are at most `fuel` words in as many characters. -/
def spacedWords : (fuel : Nat) → Text → List Text
  | 0, _ => []
  | fuel + 1, s =>
    let (lead, rest) := s.span Text.isBlank
    let (word, rest) := rest.span fun c => !Text.isBlank c
    let (trail, rest) := rest.span Text.isBlank
    if word.isEmpty then [] else (lead ++ word ++ trail) :: spacedWords fuel rest

/-- The text without the blanks at its end. -/
def withoutEnd (s : Text) : Text := (Text.dropBlanks s.reverse).reverse

/-- The pieces of a word, given from where a piece that takes `used` columns already goes on. No
    piece takes more than `columns` columns. -/
def chopFrom (columns used : Nat) (piece : Text) : Text → List Text
  | [] => [piece]
  | c :: s =>
    let size := Text.charWidth c
    if columns < used + size then piece :: chopFrom columns size [c] s
    else chopFrom columns (used + size) (piece ++ [c]) s

/-- The pieces of a word, each of which fits into a line. -/
def chop (columns : Nat) (word : Text) : List Text := chopFrom columns 0 [] word

/-- What happens to a word that is wider than a line. -/
inductive Overflow where
  /-- It goes on in the next line. -/
  | fold
  /-- It is cut off, and dots stand at its end. -/
  | cut
  deriving DecidableEq, Repr

/-- The pieces of a word that is wider than a line. -/
def Overflow.pieces (overflow : Overflow) (columns : Nat) (word : Text) : List Text :=
  match overflow with
  | fold => chop columns word
  | cut => [word]

/-- The lines of words, of which the first goes on with `line`, that takes `used` columns. -/
def fillLines (overflow : Overflow) (columns : Nat) (line : Text) (used : Nat) :
    List Text → List Text
  | [] => [line]
  | word :: words =>
    let size := Text.width (withoutEnd word)
    if used + size ≤ columns then
      fillLines overflow columns (line ++ word) (used + Text.width word) words
    else
      let pieces := if columns < size then overflow.pieces columns word else [word]
      let last := pieces.getLast?.getD []
      (if line.isEmpty then [] else [line]) ++ pieces.dropLast
        ++ fillLines overflow columns last (Text.width last) words

/-- A line without the blanks at its end that exceed the columns. -/
def withoutExcess (columns : Nat) (line : Text) : Text :=
  let blanks := line.length - (withoutEnd line).length
  line.take (line.length - min blanks (line.length - columns))

/-- The front of a line that takes as many columns. A space stands for the first half of a
    character that does not fit. -/
def front : (columns : Nat) → Text → Text
  | _, [] => []
  | columns, c :: s =>
    let size := Text.charWidth c
    if size ≤ columns then c :: front (columns - size) s else List.replicate columns ' '

/-- A line that fits. -/
def fitLine (overflow : Overflow) (columns : Nat) (line : Text) : Text :=
  let line := withoutExcess columns line
  if Text.width line ≤ columns then line
  else match overflow with
    | .fold => front columns line
    | .cut => front (columns - 1) line ++ ['…']

/-- The lines that a line is broken into. A line without words is not broken. -/
def wrap (overflow : Overflow) (columns : Nat) (line : Text) : List Text :=
  let lines :=
    match spacedWords line.length line with
    | [] => [line]
    | words => fillLines overflow columns [] 0 words
  lines.map (fitLine overflow columns)

/-- The lines of a text in a number of columns. -/
def layOut (overflow : Overflow) (columns : Nat) (s : Text) : List Text :=
  (Text.split '\n' s).flatMap fun line => wrap overflow columns (expandTabs line)

/-- A character that ends a line in some kind of text. -/
def isLineEnd (c : Char) : Bool :=
  c = '\n' || (0x1c ≤ c.toNat && c.toNat ≤ 0x1e) || c = '\x85' || c = '\u2028' || c = '\u2029'

/-- The columns that a text asks for: those of its widest line, in which a tab takes none. -/
def naturalWidth (s : Text) : Nat :=
  ((Text.split '\n' (s.map fun c => if isLineEnd c then '\n' else c)).map Text.width).foldl max 0

end Groundwork.Console
