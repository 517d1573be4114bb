import Groundwork.Data.Decimal
import Groundwork.Failure
import Groundwork.Text.Blank
import Groundwork.Text.Digit

/-!
# Numerals

Numbers as people write them: with blanks around them, with a sign, and in the digits of any
script. `whole` reads a whole number in a given base, `decimal?` a decimal with a fraction and an
exponent.
-/

namespace Groundwork.Numeral

/-- A blank that may stand around a numeral. The separators of ASCII may not. -/
def isMargin (c : Char) : Bool := Text.isBlank c && !(28 ≤ c.toNat && c.toNat ≤ 31)

/-- The text without the blanks around it. -/
def trim (s : Text) : Text := ((s.dropWhile isMargin).reverse.dropWhile isMargin).reverse

/-- A digit of any script in ASCII; other characters as they are. -/
def plainDigit (c : Char) : Char :=
  match Text.digit? c with
  | some n => Nat.digitChar n
  | none => c

/-- A digit of the base, which is at most 16. -/
def isDigitOf (base : Nat) (c : Char) : Bool :=
  Decimal.isHexDigit c && Decimal.digitValue c < base

/-- The letter that may stand after a zero to name the base. -/
def baseLetter? (base : Nat) : Option Char :=
  if base = 2 then some 'b' else if base = 8 then some 'o' else if base = 16 then some 'x'
  else none

/-- The text without the zero and the letter that name the base. -/
def dropBaseSign (base : Nat) (s : Text) : Text :=
  match s with
  | '0' :: c :: rest => if baseLetter? base = some c.toLower then rest else s
  | _ => s

/-- A whole number. In base 10 the number of digits is limited. -/
def whole (base : Nat) (s : Text) : Except Failure Int :=
  let (negative, unsigned) := Decimal.takeSign ((trim s).map plainDigit)
  let (digits, rest) := (dropBaseSign base unsigned).span (isDigitOf base)
  if base = 10 && Decimal.digitLimit < digits.length then .error (.tooManyDigits digits.length)
  else if digits.isEmpty || !rest.isEmpty then .error (.noWhole base s)
  else .ok (Decimal.signed negative (Decimal.valueOf base digits))

/-- A decimal, `digits · 10^exponent`. -/
structure Scientific where
  negative : Bool
  digits : Nat
  exponent : Int
  deriving DecidableEq, Repr

/-- Words for what is beyond all numbers or is no number. -/
def endlessWords : List Text := ["inf", "infinity", "nan"].map String.toList

/-- The exponent at the end of a decimal; zero if there is none. -/
def exponent? : Text → Option Int
  | [] => some 0
  | e :: s =>
    let (negative, digits) := Decimal.takeSign s
    if e.toLower = 'e' && !digits.isEmpty && digits.all Char.isDigit then
      some (Decimal.signed negative (Decimal.valueOf 10 digits))
    else none

/-- A decimal; the inner result is missing if the text is a word for no such number. A point needs
    a digit on one of its sides. -/
def decimal? (s : Text) : Option (Option Scientific) :=
  let (negative, unsigned) := Decimal.takeSign ((trim s).map plainDigit)
  if endlessWords.contains (unsigned.map Char.toLower) then some none
  else
    let (front, rest) := unsigned.span Char.isDigit
    let (fraction, rest) := match rest with
      | '.' :: rest => rest.span Char.isDigit
      | rest => ([], rest)
    if front.isEmpty && fraction.isEmpty then none
    else (exponent? rest).map fun exponent =>
      some ⟨negative, Decimal.valueOf 10 (front ++ fraction), exponent - fraction.length⟩

namespace Scientific

/-- The whole number that the decimal equals as a floating number. -/
def whole? (d : Scientific) : Option Int := Decimal.whole? d.negative d.digits d.exponent

/-- The decimal in units of `10^exponent`, for an exponent that is not larger than its own. -/
def inUnits (exponent : Int) (d : Scientific) : Int :=
  Decimal.signed d.negative (Decimal.withZeros (d.exponent - exponent).toNat d.digits)

end Scientific

end Groundwork.Numeral
