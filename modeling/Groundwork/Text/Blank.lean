import Groundwork.Text.Basic

/-!
# Blank characters

The characters that separate words: the white space of Unicode and the four information
separators of ASCII.
-/

namespace Groundwork.Text

/-- White space outside ASCII. -/
def wideBlanks : List (Nat × Nat) :=
  [(0x85, 0x85), (0xA0, 0xA0), (0x1680, 0x1680), (0x2000, 0x200A), (0x2028, 0x2029),
   (0x202F, 0x202F), (0x205F, 0x205F), (0x3000, 0x3000)]

/-- White space: blanks, tabs, line ends, and the separators U+001C to U+001F. -/
def isBlank (c : Char) : Bool :=
  c = ' ' || (9 ≤ c.toNat && c.toNat ≤ 13) || (28 ≤ c.toNat && c.toNat ≤ 31)
    || (128 ≤ c.toNat && inRanges wideBlanks c)

/-- The text from its first character that is not blank. -/
def dropBlanks (s : Text) : Text := s.dropWhile isBlank

/-- The text without blanks at either end. -/
def trim (s : Text) : Text := (dropBlanks (dropBlanks s).reverse).reverse

/-- The pieces of the text between its blanks. -/
def words (s : Text) : List Text :=
  (split ' ' (s.map fun c => if isBlank c then ' ' else c)).filter fun word => !word.isEmpty

/-- A space or a tab. -/
def isSpaceOrTab (c : Char) : Bool := c = ' ' || c = '\t'

end Groundwork.Text
