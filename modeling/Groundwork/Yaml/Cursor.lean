import Groundwork.Text.Basic

/-!
# Reading positions in a document

A cursor is the rest of a document, together with the line, the column and the number of
characters before it.
-/

namespace Groundwork.Yaml

/-- A character that ends a line. -/
def isBreak (c : Char) : Bool :=
  c = '\n' || c = '\r' || c = '\x85' || c = '\u2028' || c = '\u2029'

/-- The line ends here. -/
def endsLine : Option Char → Bool
  | none => true
  | some c => isBreak c

/-- A blank, the end of the line or the end of the document is here. -/
def endsWord : Option Char → Bool
  | none => true
  | some c => c = ' ' || c = '\t' || isBreak c

/-- A space, the end of the line or the end of the document is here. -/
def isSpaceOrEnd : Option Char → Bool
  | none => true
  | some c => c = ' ' || isBreak c

/-- A character that a document may hold. -/
def isPrintable (c : Char) : Bool :=
  c = '\t' || c = '\n' || c = '\r' || (' ' ≤ c && c ≤ '~') || c = '\x85'
    || (0xA0 ≤ c.toNat && c.toNat ≤ 0xD7FF) || (0xE000 ≤ c.toNat && c.toNat ≤ 0xFFFD)
    || 0x10000 ≤ c.toNat

/-- A letter or digit of ASCII, a hyphen or a low line. -/
def isNameChar (c : Char) : Bool := c.isAlphanum || c = '-' || c = '_'

/-- A place in a document. -/
structure Cursor where
  /-- The document from the place on. -/
  rest : Text
  /-- Characters before the place. -/
  index : Nat := 0
  /-- Lines that end before the place. -/
  line : Nat := 0
  /-- Characters between the start of the line and the place. -/
  column : Nat := 0
  deriving Repr

namespace Cursor

/-- The character here. -/
def here? (pos : Cursor) : Option Char := pos.rest.head?

/-- The character `n` characters on. -/
def ahead? (pos : Cursor) (n : Nat) : Option Char := pos.rest[n]?

/-- One character on. A byte order mark takes no column. -/
def step (pos : Cursor) : Cursor :=
  match pos.rest with
  | [] => pos
  | c :: rest =>
    if isBreak c && !(c = '\r' && rest.head? = some '\n') then
      ⟨rest, pos.index + 1, pos.line + 1, 0⟩
    else if c = '\ufeff' then ⟨rest, pos.index + 1, pos.line, pos.column⟩
    else ⟨rest, pos.index + 1, pos.line, pos.column + 1⟩

/-- `n` characters on. -/
def skip (pos : Cursor) : Nat → Cursor
  | 0 => pos
  | n + 1 => pos.step.skip n

/-- The characters that satisfy `p` from here on, and the place after them. -/
def takeWhile (pos : Cursor) (p : Char → Bool) : Text × Cursor :=
  let taken := pos.rest.takeWhile p
  (taken, pos.skip taken.length)

/-- The place after the characters that satisfy `p`. -/
def dropWhile (pos : Cursor) (p : Char → Bool) : Cursor := (pos.takeWhile p).2

/-- The end of a line, read as a line feed unless it is a separator of Unicode, and the place
    after it. No text if no line ends here. -/
def takeBreak (pos : Cursor) : Text × Cursor :=
  match pos.rest with
  | '\r' :: '\n' :: _ => (['\n'], pos.skip 2)
  | c :: _ =>
    if c = '\u2028' || c = '\u2029' then ([c], pos.step)
    else if isBreak c then (['\n'], pos.step)
    else ([], pos)
  | [] => ([], pos)

/-- Three times `c` and then the end of a word are here. -/
def isTripled (pos : Cursor) (c : Char) : Bool :=
  pos.rest.take 3 = [c, c, c] && endsWord (pos.ahead? 3)

/-- A line of `---` or `...` begins here, provided that a line does. -/
def isDocumentMark (pos : Cursor) : Bool := pos.isTripled '-' || pos.isTripled '.'

end Cursor

end Groundwork.Yaml
