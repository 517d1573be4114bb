import Groundwork.Text.Basic

/-!
# Decimal numbers as floating numbers

A floating number read from a file is kept only by the whole number that it equals, if any. The
number is the binary64 number nearest to the decimal that is written, so that a decimal very close
to a whole number equals it.

`nearestWhole?` decides this in exact arithmetic. Below 2^52 the binary64 numbers next to a whole
number `n` lie at the distance `2^(log n - 52)` above it and, for a power of two, at half that
distance below it; the decimal is rounded to `n` if it lies at most half way to them. From 2^52 on
all binary64 numbers are whole, and those of `n`'s size are the multiples of `2^(log n - 52)`.
-/

namespace Groundwork.Decimal

/-- Value of a digit of base 16 or below. -/
def digitValue (c : Char) : Nat :=
  if c.isDigit then c.toNat - '0'.toNat
  else if 'a' ≤ c && c ≤ 'f' then c.toNat - 'a'.toNat + 10
  else if 'A' ≤ c && c ≤ 'F' then c.toNat - 'A'.toNat + 10
  else 0

/-- Value of a text of digits. -/
def valueOf (base : Nat) (digits : Text) : Nat :=
  digits.foldl (fun n c => n * base + digitValue c) 0

/-- A digit of base 16. -/
def isHexDigit (c : Char) : Bool :=
  c.isDigit || ('a' ≤ c && c ≤ 'f') || ('A' ≤ c && c ≤ 'F')

/-- A sign at the front and the text without it; `true` for a minus. -/
def takeSign : Text → Bool × Text
  | '-' :: s => (true, s)
  | '+' :: s => (false, s)
  | s => (false, s)

/-- A number with its sign. -/
def signed (negative : Bool) (n : Nat) : Int := if negative then -(n : Int) else n

/-- The most digits that a whole number of base 10 may have. -/
def digitLimit : Nat := 4300

/-- A number with zeros written behind it. -/
def withZeros (zeros n : Nat) : Nat := n * Nat.pow 10 zeros

/-- The quotient rounded to a whole number; a half goes to the even neighbour. -/
def roundedQuotient (top bottom : Nat) : Nat :=
  let n := top / bottom
  let twice := 2 * (top % bottom)
  if twice < bottom || (twice = bottom && n % 2 = 0) then n else n + 1

/-- The binary64 number nearest to a quotient of at least 2^52; nothing if it is infinite. -/
def nearestLarge? (top bottom : Nat) : Option Nat :=
  let unit := Nat.pow 2 ((top / bottom).log2 - 52)
  let n := roundedQuotient top (bottom * unit) * unit
  if n.log2 < 1024 then some n else none

/-- The whole number that the binary64 number nearest to `top / bottom` equals, if it equals
    one. -/
def nearestWhole? (top bottom : Nat) : Option Nat :=
  let n := (2 * top + bottom) / (2 * bottom)
  if 52 ≤ (top / bottom).log2 then nearestLarge? top bottom
  else if n = 0 then (if top <<< 1075 ≤ bottom then some 0 else none)
  else
    let steps := 53 - n.log2
    if n * bottom ≤ top then (if (top - n * bottom) <<< steps ≤ bottom then some n else none)
    else
      let steps := if 1 <<< n.log2 = n then steps + 1 else steps
      if (n * bottom - top) <<< steps ≤ bottom then some n else none

/-- The largest exponent of ten for which a number is worked out; beyond it, and below its
    negative, every binary64 number is infinite or zero. -/
def exponentLimit : Nat := 400

/-- The whole number that the decimal `digits · 10^exponent` equals as a floating number. -/
def whole? (negative : Bool) (digits : Nat) (exponent : Int) : Option Int :=
  let size : Int := (toString digits).length + exponent
  let magnitude : Option Nat :=
    if digits = 0 || size < -(exponentLimit : Int) then some 0
    else if exponentLimit < size then none
    else if 0 ≤ exponent then nearestWhole? (withZeros exponent.toNat digits) 1
    else nearestWhole? digits (withZeros (-exponent).toNat 1)
  magnitude.map (signed negative)

end Groundwork.Decimal
