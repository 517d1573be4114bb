import Groundwork.Data.Decimal
import Groundwork.Data.Value

/-!
# Tokens of JSON

JSON text is cut into tokens; blanks between tokens carry no meaning. Beside the numbers of the
standard, `NaN`, `Infinity` and `-Infinity` are read. What is no token becomes a fault, which is an
error only where a value is read from it, so that of two errors the first one counts.
-/

namespace Groundwork.Json

/-- Why a text denotes no value. -/
inductive Fault where
  | malformed
  /-- A whole number has this many digits. -/
  | tooManyDigits (count : Nat)
  /-- A list, or else a mapping, stands within too many others. -/
  | tooDeep (isList : Bool)
  deriving DecidableEq, Repr

/-- A token of JSON. -/
inductive Token where
  | openBrace
  | closeBrace
  | openBracket
  | closeBracket
  | colon
  | comma
  /-- A text, as a value. -/
  | text (t : Value)
  /-- A number, a truth value or null. -/
  | atom (value : Value)
  | fault (fault : Fault)
  deriving Repr

/-- A blank between tokens. -/
def isBlank (c : Char) : Bool := c = ' ' || c = '\t' || c = '\n' || c = '\r'

/-- The token of a character that is a token by itself. -/
def punctuation? (c : Char) : Option Token :=
  if c = '\x7b' then some .openBrace
  else if c = '\x7d' then some .closeBrace
  else if c = '[' then some .openBracket
  else if c = ']' then some .closeBracket
  else if c = ':' then some .colon
  else if c = ',' then some .comma
  else none

/-- The digits at the front, at least one. -/
def digits? (s : Text) : Option (Text × Text) :=
  match s.span Char.isDigit with
  | ([], _) => none
  | found => some found

/-- The letter of an exponent. -/
def isExponentSign (c : Char) : Bool := c = 'e' || c = 'E'

/-- The exponent of a number, which ends the text; zero if there is none. -/
def exponent? : Text → Option Int
  | [] => some 0
  | e :: s =>
    let (negative, s) := Decimal.takeSign s
    match digits? s with
    | some (digits, []) =>
      if isExponentSign e then some (Decimal.signed negative (Decimal.valueOf 10 digits)) else none
    | _ => none

/-- A fraction or an exponent begins here, with at least one digit. -/
def opensReal : Text → Bool
  | '.' :: c :: _ => c.isDigit
  | e :: s => isExponentSign e && (digits? (Decimal.takeSign s).2).isSome
  | [] => false

/-- The floating number of the digits before the point and of the fraction and the exponent after
    them. -/
def realOf? (negative : Bool) (digits : Text) : Text → Option Value
  | '.' :: s => do
    let (fraction, s) ← digits? s
    let exponent ← exponent? s
    return .real (Decimal.whole? negative (Decimal.valueOf 10 (digits ++ fraction))
      (exponent - fraction.length))
  | s => do
    let exponent ← exponent? s
    return .real (Decimal.whole? negative (Decimal.valueOf 10 digits) exponent)

/-- The token of a number without its sign. Numbers with a fraction or an exponent are floating
    numbers. That a whole number has too many digits shows before what stands behind it. -/
def unsigned (negative : Bool) (s : Text) : Token :=
  match digits? s with
  | none => .fault .malformed
  | some (digits, rest) =>
    if digits.length > 1 && digits.head? = some '0' then .fault .malformed
    else if opensReal rest then
      match realOf? negative digits rest with
      | some value => .atom value
      | none => .fault .malformed
    else if Decimal.digitLimit < digits.length then .fault (.tooManyDigits digits.length)
    else if rest.isEmpty then
      .atom (.whole (Decimal.signed negative (Decimal.valueOf 10 digits)))
    else .fault .malformed

/-- The token of a word that is neither punctuation nor a text. -/
def ofWord (word : Text) : Token :=
  if word = "null" then .atom .null
  else if word = "true" then .atom (.truth true)
  else if word = "false" then .atom (.truth false)
  else if word = "NaN" || word = "Infinity" || word = "-Infinity" then .atom (.real none)
  else match word with
    | '-' :: s => unsigned true s
    | s => unsigned false s

/-- The character that a backslash and a letter stand for. -/
def escape? (c : Char) : Option Char :=
  match c with
  | '"' => some '"'
  | '\\' => some '\\'
  | '/' => some '/'
  | 'b' => some '\x08'
  | 'f' => some '\x0c'
  | 'n' => some '\n'
  | 'r' => some '\r'
  | 't' => some '\t'
  | _ => none

/-- A unit of UTF-16 that stands for the first half of a character. -/
def isHigh (n : Nat) : Bool := 0xD800 ≤ n && n < 0xDC00

/-- A unit of UTF-16 that stands for the second half of a character. -/
def isLow (n : Nat) : Bool := 0xDC00 ≤ n && n < 0xE000

/-- The characters that a sequence of UTF-16 units stands for, where units of plain characters
    stand for themselves. A half without its partner is no character. -/
def characters : List Nat → List (Option Char)
  | [] => []
  | [n] => [if isHigh n || isLow n then none else some (Char.ofNat n)]
  | high :: low :: rest =>
    if isHigh high && isLow low then
      some (Char.ofNat (0x10000 + (high - 0xD800) * 0x400 + (low - 0xDC00))) :: characters rest
    else if isHigh high || isLow high then none :: characters (low :: rest)
    else some (Char.ofNat high) :: characters (low :: rest)

/-- The value of a text that is written with these units. -/
def textOfUnits (units : List Nat) : Value := Value.ofCharacters (characters units)

/-- What has been read of the token at hand. -/
inductive Progress where
  /-- Between tokens. -/
  | between
  /-- Within a word, given in reverse. -/
  | word (letters : Text)
  /-- Within a text, whose units are given in reverse. -/
  | text (units : List Nat)
  /-- After a backslash within a text. -/
  | escape (units : List Nat)
  /-- Within the digits of an escaped unit, `missing` of which are still to come. -/
  | unit (units : List Nat) (missing value : Nat)
  deriving Repr

/-- The tokens of a text from which `progress` has been read. -/
def tokensFrom (progress : Progress) : Text → List Token
  | [] =>
    match progress with
    | .between => []
    | .word letters => [ofWord letters.reverse]
    | _ => [.fault .malformed]
  | c :: s =>
    match progress with
    | .between =>
      if isBlank c then tokensFrom .between s
      else if c = '"' then tokensFrom (.text []) s
      else match punctuation? c with
        | some token => token :: tokensFrom .between s
        | none => tokensFrom (.word [c]) s
    | .word letters =>
      if isBlank c then ofWord letters.reverse :: tokensFrom .between s
      else if c = '"' then ofWord letters.reverse :: tokensFrom (.text []) s
      else match punctuation? c with
        | some token => ofWord letters.reverse :: token :: tokensFrom .between s
        | none => tokensFrom (.word (c :: letters)) s
    | .text units =>
      if c = '"' then .text (textOfUnits units.reverse) :: tokensFrom .between s
      else if c = '\\' then tokensFrom (.escape units) s
      else if c.toNat < 32 then [.fault .malformed]
      else tokensFrom (.text (c.toNat :: units)) s
    | .escape units =>
      if c = 'u' then tokensFrom (.unit units 4 0) s
      else match escape? c with
        | some plain => tokensFrom (.text (plain.toNat :: units)) s
        | none => [.fault .malformed]
    | .unit units missing value =>
      if !Decimal.isHexDigit c then [.fault .malformed]
      else
        let value := value * 16 + Decimal.digitValue c
        if missing ≤ 1 then tokensFrom (.text (value :: units)) s
        else tokensFrom (.unit units (missing - 1) value) s

/-- The tokens of a text, up to the first place that cannot be cut into tokens. -/
def tokens (s : Text) : List Token := tokensFrom .between s

end Groundwork.Json
