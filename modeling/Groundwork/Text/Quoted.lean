import Groundwork.Text.Basic
import Groundwork.Text.PrintableTable

/-!
# Quoted text

A text between quotes, in a form that can be printed: characters without a shape of their own are
written by their code points.
-/

namespace Groundwork.Text

/-- The character has a shape of its own, or is the space. -/
def isPrintable (c : Char) : Bool :=
  if c.toNat < 128 then 32 ≤ c.toNat && c.toNat < 127 else !inRanges unprintableRanges c

/-- A number in base 16, with zeros in front up to `digits` digits. -/
def hex (digits n : Nat) : Text :=
  let shown := Nat.toDigits 16 n
  List.replicate (digits - shown.length) '0' ++ shown

/-- A character by its code point, in two, four or eight digits. -/
def codePoint (c : Char) : Text :=
  if c.toNat < 0x100 then "\\x" ++ hex 2 c.toNat
  else if c.toNat < 0x10000 then "\\u" ++ hex 4 c.toNat
  else "\\U" ++ hex 8 c.toNat

/-- A character between quotes of the given kind. -/
def quotedChar (quote c : Char) : Text :=
  if c = quote || c = '\\' then ['\\', c]
  else if c = '\n' then "\\n"
  else if c = '\r' then "\\r"
  else if c = '\t' then "\\t"
  else if isPrintable c then [c]
  else codePoint c

/-- A text between single quotes, or between double quotes if single quotes are the only ones that
    it holds. -/
def quoted (s : Text) : Text :=
  let quote := if s.contains '\'' && !s.contains '"' then '"' else '\''
  quote :: s.flatMap (quotedChar quote) ++ [quote]

end Groundwork.Text
