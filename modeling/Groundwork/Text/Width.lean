import Groundwork.Text.Basic
import Groundwork.Text.WidthTable

/-!
# Width in columns

How many columns of a terminal a text takes, and filling it up to a number of columns. Characters
do not simply add up: a joiner draws the next character into the one before it, and a mark turns a
narrow character into an emoji of two columns.
-/

namespace Groundwork.Text

/-- Columns that a character takes on its own. -/
def charWidth (c : Char) : Nat :=
  if c.toNat < 128 then (if 32 ≤ c.toNat && c.toNat < 127 then 1 else 0)
  else if c.toNat < 160 then 0
  else if inRanges zeroWidthRanges c then 0
  else if inRanges doubleWidthRanges c then 2
  else 1

/-- Joins the characters around it into one. -/
def joiner : Char := '\u200d'

/-- Asks for the emoji form of the character before it. -/
def emojiMark : Char := '\ufe0f'

/-- Columns that the rest of a text takes. It is `joined` if a joiner came last, and `widenable` if
    the last character that took columns is a narrow one with an emoji form. -/
def widthAfter (joined widenable : Bool) : Text → Nat
  | [] => 0
  | c :: s =>
    if joined then widthAfter false widenable s
    else if c = joiner then widthAfter true widenable s
    else if c = emojiMark then (if widenable then 1 else 0) + widthAfter false false s
    else if charWidth c = 0 then widthAfter false widenable s
    else charWidth c + widthAfter false (inRanges widenableRanges c) s

/-- Columns that a text of one line takes. -/
def width (s : Text) : Nat := widthAfter false false s

/-- The text filled up with spaces on the right. -/
def padRight (columns : Nat) (s : Text) : Text := s ++ List.replicate (columns - width s) ' '

/-- The text filled up with spaces on the left. -/
def padLeft (columns : Nat) (s : Text) : Text := List.replicate (columns - width s) ' ' ++ s

/-- The text in the middle of `columns` columns; an odd space goes to the right. -/
def centre (columns : Nat) (fill : Char) (s : Text) : Text :=
  let spare := columns - width s
  List.replicate (spare / 2) fill ++ s ++ List.replicate (spare - spare / 2) fill

end Groundwork.Text
