import Groundwork.Text.Quoted

/-!
# Faults of literals

Why a text is no literal. Faults in its characters and brackets come before faults in the order of
its parts.
-/

namespace Groundwork

/-- Why a text is no literal. -/
inductive LiteralFault where
  /-- The parts stand in an order that means nothing. -/
  | misplaced
  /-- Two values in a bracket follow each other without a comma. -/
  | missingComma
  /-- A group gives a value to a name. -/
  | assignment
  /-- The text ends inside of the bracket. -/
  | unclosed (opening : Char)
  /-- The closing bracket closes nothing. -/
  | unmatched (closing : Char)
  /-- The brackets are of two kinds; the opening one may stand on an earlier line. -/
  | mismatched (closing opening : Char) (earlierLine : Option Nat)
  /-- The line ends inside of quotes. -/
  | unterminatedText (line : Nat)
  /-- The text ends inside of triple quotes. -/
  | unterminatedBlock (line : Nat)
  /-- A backslash outside of quotes is not at the end of a line. -/
  | strayBackslash
  /-- A character that belongs to no name, outside of quotes. -/
  | strayChar (c : Char)
  /-- A number of this kind is broken off, or a word follows it without a blank. -/
  | brokenNumber (kind : Text)
  /-- A digit that numbers of this kind do not have. -/
  | excessDigit (digit : Char) (kind : Text)
  /-- A decimal number begins with a zero. -/
  | leadingZero
  /-- A text in quotes follows one of bytes, or the other way round. -/
  | mixedTexts
  /-- A text of bytes holds a character outside ASCII. -/
  | wideByte
  /-- A backslash in quotes lacks digits. -/
  | brokenEscape
  /-- The text means something, but it is not a value written out. -/
  | notWrittenOut
  deriving DecidableEq, Repr

namespace LiteralFault

/-- The wording of a fault. -/
def message : LiteralFault → Text
  | misplaced => "invalid syntax"
  | missingComma => "invalid syntax. Perhaps you forgot a comma?"
  | assignment => "invalid syntax. Maybe you meant '==' or ':=' instead of '='?"
  | unclosed opening => "'" ++ [opening] ++ "' was never closed"
  | unmatched closing => "unmatched '" ++ [closing] ++ "'"
  | mismatched closing opening earlierLine =>
    "closing parenthesis '" ++ [closing] ++ "' does not match opening parenthesis '" ++ [opening]
      ++ "'" ++ (match earlierLine with
        | some line => " on line " ++ Text.ofNat line
        | none => [])
  | unterminatedText line =>
    "unterminated string literal (detected at line " ++ Text.ofNat line ++ ")"
  | unterminatedBlock line =>
    "unterminated triple-quoted string literal (detected at line " ++ Text.ofNat line ++ ")"
  | strayBackslash => "unexpected character after line continuation character"
  | strayChar c =>
    let code := (Text.hex 4 c.toNat).map Char.toUpper
    if Text.isPrintable c then "invalid character '" ++ [c] ++ "' (U+" ++ code ++ ")"
    else "invalid non-printable character U+" ++ code
  | brokenNumber kind => "invalid " ++ kind ++ " literal"
  | excessDigit digit kind => "invalid digit '" ++ [digit] ++ "' in " ++ kind ++ " literal"
  | leadingZero =>
    "leading zeros in decimal integer literals are not permitted; "
      ++ "use an 0o prefix for octal integers"
  | mixedTexts => "cannot mix bytes and nonbytes literals"
  | wideByte => "bytes can only contain ASCII literal characters"
  | brokenEscape => "an escape in a text lacks digits"
  | notWrittenOut => "the arguments are not written out"

end LiteralFault

end Groundwork
