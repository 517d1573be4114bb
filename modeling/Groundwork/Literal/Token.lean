import Groundwork.Data.Decimal
import Groundwork.Literal.Fault
import Groundwork.Text.Word

/-!
# Parts of a literal

A literal is written in parts: numbers, texts in quotes, names, and marks of punctuation. Blanks,
comments and, inside of brackets, line ends stand between them.
-/

namespace Groundwork.Literal

/-- A part of a literal. -/
inductive Token where
  | number (imaginary : Bool)
  /-- A text in quotes: of characters or of bytes, as it is or a template to be filled in. -/
  | text (bytes template : Bool)
  | name (word : Text)
  | mark (sign : Text)
  | lineEnd
  /-- A backslash that is not at the end of a line. Nothing after it is read. -/
  | strayBackslash
  deriving DecidableEq, Repr

/-- A character of names. -/
def isNameChar (c : Char) : Bool := c.isAlphanum || c = '_' || 128 ≤ c.toNat

/-- Words that may follow a number without a blank. -/
def wordsAfterNumbers : List Text := ["and", "else", "for", "if", "in", "is", "or", "not"]

/-- The text begins with the word, and no longer name does. -/
def beginsWithWord (s word : Text) : Bool :=
  match Text.after? word s with
  | some rest => !rest.head?.any isNameChar
  | none => false

/-- What follows a number, which no other name may. -/
def endNumber (kind rest : Text) : Except LiteralFault Text :=
  if wordsAfterNumbers.any (beginsWithWord rest) then .ok rest
  else if rest.head?.any fun c => c.isAlphanum || c = '_' then .error (.brokenNumber kind)
  else .ok rest

/-- Digits at the front of a text and what follows them. A low line may stand between two digits;
    elsewhere it is a fault. -/
def spanDigits (isDigit : Char → Bool) : Text → Option (Text × Text)
  | [] => some ([], [])
  | '_' :: c :: s =>
    if isDigit c then (spanDigits isDigit s).map fun (digits, rest) => (c :: digits, rest)
    else none
  | ['_'] => none
  | c :: s =>
    if isDigit c then (spanDigits isDigit s).map fun (digits, rest) => (c :: digits, rest)
    else some ([], c :: s)

/-- What follows the digits of a number that begins with its base. -/
def takeBased (kind : Text) (isDigit : Char → Bool) (s : Text) : Except LiteralFault Text := do
  let excess (rest : Text) : Except LiteralFault Text :=
    match rest with
    | c :: _ => if c.isDigit then .error (.excessDigit c kind) else endNumber kind rest
    | [] => .ok []
  match Text.dropOne '_' s with
  | c :: rest =>
    if isDigit c then
      match spanDigits isDigit rest with
      | some (_, rest) => excess rest
      | none => throw (.brokenNumber kind)
    else if c.isDigit then throw (.excessDigit c kind)
    else throw (.brokenNumber kind)
  | [] => throw (.brokenNumber kind)

/-- Decimal digits at the front of a text and what follows them. -/
def takeDecimals (s : Text) : Except LiteralFault (Text × Text) :=
  match spanDigits Char.isDigit s with
  | some found => .ok found
  | none => .error (.brokenNumber "decimal")

/-- The exponent at the front of a text, if there is one, and what follows it. -/
def takeExponent (s : Text) : Except LiteralFault (Bool × Text) := do
  match s with
  | e :: rest =>
    if e ≠ 'e' && e ≠ 'E' then return (false, s)
    match rest with
    | c :: more =>
      if c = '+' || c = '-' then
        if !more.head?.any Char.isDigit then throw (.brokenNumber "decimal")
        return (true, (← takeDecimals more).2)
      else if c.isDigit then return (true, (← takeDecimals rest).2)
      else return (false, ← endNumber "decimal" s)
    | [] => return (false, ← endNumber "decimal" s)
  | [] => return (false, [])

/-- What follows a decimal number, and whether the number is imaginary. -/
def takeDecimal (s : Text) : Except LiteralFault (Bool × Text) := do
  let (whole, rest) ← if s.head? = some '.' then pure ([], s) else takeDecimals s
  let (hasFraction, rest) ← match rest with
    | '.' :: rest =>
      if rest.head? = some '_' then pure (true, rest)
      else do pure (true, (← takeDecimals rest).2)
    | rest => pure (false, rest)
  let (hasExponent, rest) ← takeExponent rest
  match rest with
  | c :: more =>
    if c = 'j' || c = 'J' then return (true, ← endNumber "imaginary" more)
  | [] => pure ()
  if !hasFraction && !hasExponent && whole.head? = some '0' && whole.any (· ≠ '0') then
    throw .leadingZero
  return (false, ← endNumber "decimal" rest)

/-- What follows a number, and whether the number is imaginary. -/
def takeNumber (s : Text) : Except LiteralFault (Bool × Text) := do
  match s with
  | '0' :: c :: rest =>
    if c = 'x' || c = 'X' then return (false, ← takeBased "hexadecimal" Decimal.isHexDigit rest)
    else if c = 'o' || c = 'O' then
      return (false, ← takeBased "octal" (fun c => '0' ≤ c && c ≤ '7') rest)
    else if c = 'b' || c = 'B' then
      return (false, ← takeBased "binary" (fun c => c = '0' || c = '1') rest)
    else takeDecimal s
  | _ => takeDecimal s

/-- The inside of quotes, the line in which they close, and what follows them. -/
def takeQuoted (quote : Char) (triple : Bool) (line : Nat) :
    Text → Except LiteralFault (Text × Nat × Text)
  | [] => .error (if triple then .unterminatedBlock line else .unterminatedText line)
  | '\\' :: c :: s => do
    let (inside, last, rest) ← takeQuoted quote triple (if c = '\n' then line + 1 else line) s
    return ('\\' :: c :: inside, last, rest)
  | c :: s =>
    if c = quote && !triple then .ok ([], line, s)
    else if c = quote && [quote, quote].isPrefixOf s then .ok ([], line, s.drop 2)
    else if c = '\n' && !triple then .error (.unterminatedText line)
    else do
      let (inside, last, rest) ← takeQuoted quote triple (if c = '\n' then line + 1 else line) s
      return (c :: inside, last, rest)

/-- Every escape of the inside of quotes has its digits. -/
def hasWholeEscapes (bytes : Bool) : Text → Bool
  | [] => true
  | '\\' :: c :: s =>
    let digits :=
      if c = 'x' then 2 else if bytes then 0 else if c = 'u' then 4 else if c = 'U' then 8 else 0
    (s.take digits).length = digits && (s.take digits).all Decimal.isHexDigit
      && (c ≠ 'U' || bytes || Decimal.valueOf 16 (s.take digits) < 0x110000)
      && (c ≠ 'N' || bytes || s.head? = some '\x7b')
      && hasWholeEscapes bytes s
  | _ :: s => hasWholeEscapes bytes s

/-- The words that may stand before quotes. -/
def quoteWords : List Text := ["r", "u", "b", "br", "rb", "f", "fr", "rf"]

/-- A text in quotes after its word, the line in which it ends, and what follows it. -/
def takeText (word : Text) (line : Nat) (quote : Char) (s : Text) :
    Except LiteralFault (Token × Nat × Text) := do
  let triple := [quote, quote].isPrefixOf s
  let (inside, line, rest) ← takeQuoted quote triple line (if triple then s.drop 2 else s)
  let bytes := word.contains 'b'
  let template := word.contains 'f'
  if bytes && inside.any (fun c => 128 ≤ c.toNat) then throw .wideByte
  if !word.contains 'r' && !template && !hasWholeEscapes bytes inside then throw .brokenEscape
  return (.text bytes template, line, rest)

/-- Marks of several characters, longer ones first. -/
def longMarks : List Text :=
  ["**=", "//=", "<<=", ">>=", "...", "**", "//", "<<", ">>", "<=", ">=", "==", "!=", "->", "+=",
   "-=", "*=", "/=", "%=", "&=", "|=", "^=", "@=", ":=", "<>"]

/-- The mark at the front of a text that begins with `c`. -/
def markAt (c : Char) (s : Text) : Text :=
  (longMarks.find? fun mark => (Text.after? mark (c :: s)).isSome).getD [c]

/-- The opening brackets after a closing bracket in a line, given with their lines. -/
def closeBracket (brackets : List (Char × Nat)) (line : Nat) (closing : Char) :
    Except LiteralFault (List (Char × Nat)) :=
  match brackets with
  | [] => .error (.unmatched closing)
  | (opening, first) :: brackets =>
    if (opening, closing) ∈ [('(', ')'), ('[', ']'), ('\x7b', '\x7d')] then .ok brackets
    else .error (.mismatched closing opening (if first = line then none else some first))

/-- The parts of a text from a line on, where some brackets are open. -/
def tokens (line : Nat) (brackets : List (Char × Nat)) :
    (fuel : Nat) → Text → Except LiteralFault (List Token)
  | 0, _ => .ok []
  | _, [] => .ok []
  | fuel + 1, c :: s => do
    if c = ' ' || c = '\t' || c = '\x0c' then tokens line brackets fuel s
    else if c = '#' then tokens line brackets fuel (s.dropWhile (· ≠ '\n'))
    else if c = '\n' then
      let more ← tokens (line + 1) brackets fuel s
      return if brackets.isEmpty then .lineEnd :: more else more
    else if c = '\\' then
      match s with
      | '\n' :: s => tokens (line + 1) brackets fuel s
      | _ => return [.strayBackslash]
    else if c.isDigit || (c = '.' && s.head?.any Char.isDigit) then
      let (imaginary, rest) ← takeNumber (c :: s)
      return .number imaginary :: (← tokens line brackets fuel rest)
    else if c = '\'' || c = '"' then
      let (text, line, rest) ← takeText [] line c s
      return text :: (← tokens line brackets fuel rest)
    else if isNameChar c then
      let (word, rest) := (c :: s).span isNameChar
      match rest with
      | d :: more =>
        if (d = '\'' || d = '"') && quoteWords.contains (word.map Char.toLower) then
          let (text, line, rest) ← takeText (word.map Char.toLower) line d more
          return text :: (← tokens line brackets fuel rest)
      | [] => pure ()
      match word.find? fun c => !Text.isWord c with
      | some c => throw (.strayChar c)
      | none => return .name word :: (← tokens line brackets fuel rest)
    else if c = '(' || c = '[' || c = '\x7b' then
      return .mark [c] :: (← tokens line ((c, line) :: brackets) fuel s)
    else if c = ')' || c = ']' || c = '\x7d' then
      let brackets ← closeBracket brackets line c
      return .mark [c] :: (← tokens line brackets fuel s)
    else
      let mark := markAt c s
      return .mark mark :: (← tokens line brackets fuel (s.drop (mark.length - 1)))

/-- The parts of a text. -/
def tokensOf (s : Text) : Except LiteralFault (List Token) :=
  tokens 1 [] (s.length + 1) (Text.normaliseLineEnds s)

end Groundwork.Literal
