import Groundwork.Console.EmojiTable
import Groundwork.Data.Decimal
import Groundwork.Text.Blank
import Groundwork.Text.Case
import Groundwork.Text.Width

/-!
# Emoji codes

The name of an emoji between colons, such as `:cat:`, stands for the emoji. A code may ask for one
form of it, as in `:heart-text:` and `:heart-emoji:`; then an invisible mark follows the emoji. A
code whose name is unknown shows as it is written, and its colons belong to no other code.
-/

namespace Groundwork.Console

/-- The name and the emoji of one row of the table. -/
def emojiRow (row : Text) : Option (Text × Text) :=
  match Text.words row with
  | [] => none
  | name :: codes => some (name, codes.map fun code => Char.ofNat (Decimal.valueOf 16 code))

/-- Emojis by name. -/
def emojis : List (Text × Text) :=
  emojiRows.flatMap fun (rows : String) => (Text.split '\n' rows.toList).filterMap emojiRow

/-- Asks for the text form of the character before it. -/
def textMark : Char := '\ufe0e'

/-- A code as it is written after its first colon. -/
structure EmojiCode where
  /-- The characters of the code after its first colon. -/
  length : Nat
  name : Text
  /-- The mark of the form that the code asks for. -/
  mark : Option Char
  deriving DecidableEq, Repr

namespace EmojiCode

/-- The code at the front of a text, given without its first colon. A name has no blanks and ends at
    the first colon, or before the first hyphen that begins a form. -/
def ofText? : Text → Option EmojiCode
  | [] => none
  | c :: s =>
    if (Text.after? "-emoji:" (c :: s)).isSome then some ⟨7, [], some Text.emojiMark⟩
    else if (Text.after? "-text:" (c :: s)).isSome then some ⟨6, [], some textMark⟩
    else if c = ':' then some ⟨1, [], none⟩
    else if Text.isBlank c then none
    else (ofText? s).map fun code => { code with length := code.length + 1, name := c :: code.name }

/-- What the code stands for, if its name is known. Capitals in a name do not matter. -/
def emoji? (code : EmojiCode) : Option Text :=
  (emojis.lookup (Text.lower code.name)).map (· ++ code.mark.toList)

end EmojiCode

/-- A text with emojis for its codes; the first `skipped` characters are left out. -/
def withEmojisAfter (skipped : Nat) : Text → Text
  | [] => []
  | c :: s =>
    if 0 < skipped then withEmojisAfter (skipped - 1) s
    else if c = ':' then
      match EmojiCode.ofText? s with
      | some code =>
        code.emoji?.getD (c :: s.take code.length) ++ withEmojisAfter code.length s
      | none => c :: withEmojisAfter 0 s
    else c :: withEmojisAfter 0 s

/-- A text with emojis for its codes. -/
def withEmojis (s : Text) : Text := withEmojisAfter 0 s

end Groundwork.Console
