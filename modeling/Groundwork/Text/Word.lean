import Groundwork.Text.Basic
import Groundwork.Text.WordTable

/-!
# Word characters

The characters that identifiers and words consist of: letters and numerals of any script, and
the low line.
-/

namespace Groundwork.Text

/-- A letter, a numeral or `_`. -/
def isWord (c : Char) : Bool :=
  c.isAlphanum || c = '_' || (128 ≤ c.toNat && inRanges wideWordRanges c)

/-- The word characters at the front of the text, and what follows them. -/
def spanWord (s : Text) : Text × Text := s.span isWord

end Groundwork.Text
