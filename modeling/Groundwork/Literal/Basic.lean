import Groundwork.Literal.Token

/-!
# Literals

A literal is a value written out: numbers with a sign, complex sums, texts, truth values, and groups
of literals in brackets. `fault?` says whether a text is one, and if not why.
-/

namespace Groundwork.Literal

/-- What a value can be a part of. -/
inductive Value where
  /-- Real numbers without a sign may take one, and an imaginary one without a sign may be added to
      a real one. -/
  | number (imaginary signed : Bool)
  /-- Only such values are elements of sets and keys of mappings. -/
  | fixed
  | changing
  deriving DecidableEq, Repr

namespace Value

/-- The value may be an element of a set or a key. -/
def isFixed (value : Value) : Bool := value ≠ changing

/-- A group of values in parentheses. -/
def tuple (values : List Value) : Value := if values.all isFixed then fixed else changing

end Value

/-- Names that are values. -/
def valueNames : List Text := ["True", "False", "None"]

/-- What follows the texts at the front, which are read as one text: all are of characters or all of
    bytes, and none is a template. -/
def takeTexts (bytes : Bool) : List Token → Option (List Token)
  | .text others template :: rest =>
    if others = bytes && !template then takeTexts bytes rest else none
  | rest => some rest

/-- The next token ends a group. -/
def endsGroup : List Token → Bool
  | [] | .lineEnd :: _ => true
  | .mark sign :: _ => sign = ")" || sign = "\x7d"
  | _ => false

mutual

/-- A value with a sign in front or without one. -/
def takeSigned : (fuel : Nat) → List Token → Option (Value × List Token)
  | 0, _ => none
  | fuel + 1, .mark sign :: rest => do
    if sign = "+" || sign = "-" then
      match ← takeSigned fuel rest with
      | (.number imaginary false, rest) => return (.number imaginary true, rest)
      | _ => none
    else if sign = "..." then return (.fixed, rest)
    else if sign = "(" then
      match ← takeItems fuel rest with
      | ([value], false, .mark [')'] :: rest) => return (value, rest)
      | (values, _, .mark [')'] :: rest) => return (Value.tuple values, rest)
      | _ => none
    else if sign = "\x7b" then
      match takeEntries fuel rest, takeItems fuel rest with
      | some (.mark ['\x7d'] :: rest), _ => return (.changing, rest)
      | _, some (values, _, .mark ['\x7d'] :: rest) =>
        if values.all Value.isFixed then return (.changing, rest) else none
      | _, _ => none
    else none
  | _ + 1, .number imaginary :: rest => some (.number imaginary false, rest)
  | _ + 1, .text bytes template :: rest =>
    (takeTexts bytes (.text bytes template :: rest)).map fun rest => (.fixed, rest)
  | _ + 1, .name word :: rest =>
    if valueNames.contains word then some (.fixed, rest)
    else match rest with
      | .mark ['('] :: .mark [')'] :: rest => if word = "set" then some (.changing, rest) else none
      | _ => none
  | _ + 1, _ => none

/-- A value, or the sum or difference of a real and an imaginary number. -/
def takeSum : (fuel : Nat) → List Token → Option (Value × List Token)
  | 0, _ => none
  | fuel + 1, tokens => do
    match ← takeSigned fuel tokens with
    | (.number false signed, .mark sign :: rest) =>
      if sign = "+" || sign = "-" then
        match ← takeSigned fuel rest with
        | (.number true false, rest) => return (.fixed, rest)
        | _ => none
      else return (.number false signed, .mark sign :: rest)
    | found => return found

/-- Values between commas, and whether a comma follows the first. -/
def takeItems : (fuel : Nat) → List Token → Option (List Value × Bool × List Token)
  | 0, _ => none
  | fuel + 1, tokens => do
    if endsGroup tokens then return ([], false, tokens)
    match ← takeSum fuel tokens with
    | (value, .mark [','] :: rest) => do
      let (values, _, rest) ← takeItems fuel rest
      return (value :: values, true, rest)
    | (value, rest) => return ([value], false, rest)

/-- Keys with their values between commas. -/
def takeEntries : (fuel : Nat) → List Token → Option (List Token)
  | 0, _ => none
  | fuel + 1, tokens => do
    if endsGroup tokens then return tokens
    match ← takeSum fuel tokens with
    | (key, .mark [':'] :: rest) =>
      if !key.isFixed then none
      match ← takeSum fuel rest with
      | (_, .mark [','] :: rest) => takeEntries fuel rest
      | (_, rest) => return rest
    | _ => none

end

/-- The tokens are one value, or several with commas between them. -/
def isLiteral (tokens : List Token) : Bool :=
  match takeItems (4 * tokens.length + 4) tokens with
  | some (_ :: _, _, rest) => rest.all (· = .lineEnd)
  | _ => false

/-- Where the next token of an expression stands. -/
inductive Place where
  /-- At the start of an expression, the first of its group or not. -/
  | start (first : Bool)
  /-- After an operator. -/
  | operand
  /-- After an expression that is a name so far. -/
  | named
  /-- After a text in quotes. -/
  | text (bytes : Bool)
  /-- After another value. -/
  | value
  deriving DecidableEq, Repr

/-- Names that stand before a value. -/
def leadingNames : List Text := ["not", "await", "lambda", "yield"]

/-- Names that stand between two values. -/
def joiningNames : List Text := ["and", "or", "in", "is", "if", "else", "for", "not"]

/-- Marks that stand between two values. -/
def joiningMarks : List Text :=
  ["+", "-", "*", "/", "//", "%", "@", "**", "<<", ">>", "&", "|", "^", "<", ">", "<=", ">=", "==",
   "!=", ":="]

/-- Names that are no values and do not stand before values. -/
def otherNames : List Text :=
  ["and", "or", "in", "is", "if", "else", "for", "as", "assert", "async", "break", "class",
   "continue", "def", "del", "elif", "except", "finally", "from", "global", "import", "nonlocal",
   "pass", "raise", "return", "try", "while", "with"]

/-- A bracket that is open: around a group, or around the arguments of a call. -/
structure Bracket where
  opening : Char
  isCall : Bool
  deriving DecidableEq, Repr

/-- The brackets inside of a group that are open where the text ends, given those open so far;
    none if the group closes or a comma follows first. -/
def openAtEnd (inner : List Char) : List Token → Option (List Char)
  | [] => some inner
  | .mark sign :: rest =>
    if sign = "(" || sign = "\x7b" then openAtEnd (sign ++ inner) rest
    else if sign = ")" || sign = "\x7d" then
      match inner with
      | [] => none
      | _ :: inner => openAtEnd inner rest
    else if sign = "," && inner.isEmpty then none
    else openAtEnd inner rest
  | _ :: rest => openAtEnd inner rest

/-- A fault of the values in a group, which shows only if the text does not end with them. -/
def groupFault (brackets : List Bracket) (fault : LiteralFault) (values : List Token) :
    LiteralFault :=
  match openAtEnd [] values, brackets with
  | some (opening :: _), _ => .unclosed opening
  | some [], bracket :: _ => .unclosed bracket.opening
  | none, _ :: _ => fault
  | _, [] => .misplaced

/-- The fault where the text ends. -/
def endFault (brackets : List Bracket) (finished : Bool) : LiteralFault :=
  match brackets with
  | bracket :: _ => .unclosed bracket.opening
  | [] => if finished then .notWrittenOut else .misplaced

/-- The fault at the first token that means nothing in its place, where some brackets are open. If
    there is none, the expression is one to be worked out. -/
def orderFault (brackets : List Bracket) (place : Place) : List Token → LiteralFault
  | [] => endFault brackets (place ≠ .operand && place ≠ .start true)
  | token :: rest =>
    let group (sign : Text) : List Bracket := ⟨sign.headD '(', false⟩ :: brackets
    match place, token with
    | _, .strayBackslash => .strayBackslash
    | .start first, .lineEnd =>
      if first || !rest.all (· = .lineEnd) then .misplaced else .notWrittenOut
    | .operand, .lineEnd => .misplaced
    | _, .lineEnd => if rest.all (· = .lineEnd) then .notWrittenOut else .misplaced
    | .start _, .number _ | .operand, .number _ => orderFault brackets .value rest
    | .start _, .text bytes _ | .operand, .text bytes _ => orderFault brackets (.text bytes) rest
    | .start _, .name word =>
      if leadingNames.contains word then orderFault brackets .operand rest
      else if otherNames.contains word then .misplaced
      else orderFault brackets .named rest
    | .operand, .name word =>
      if leadingNames.contains word then orderFault brackets .operand rest
      else if otherNames.contains word then .misplaced
      else orderFault brackets .value rest
    | .start first, .mark sign =>
      if sign = "(" || sign = "\x7b" then orderFault (group sign) (.start true) rest
      else if sign = ")" || sign = "\x7d" then orderFault brackets.tail .value rest
      else if sign = "..." then orderFault brackets .value rest
      else if sign = "+" || sign = "-" || sign = "~" then orderFault brackets .operand rest
      else if (sign = "*" || sign = "**") && !(brackets.isEmpty && first) then
        orderFault brackets .operand rest
      else .misplaced
    | .operand, .mark sign =>
      if sign = "(" || sign = "\x7b" then orderFault (group sign) (.start true) rest
      else if sign = "..." then orderFault brackets .value rest
      else if sign = "+" || sign = "-" || sign = "~" then orderFault brackets .operand rest
      else .misplaced
    | .text bytes, .text others _ =>
      if bytes = others then orderFault brackets (.text bytes) rest else .mixedTexts
    | .named, .text _ _ => .misplaced
    | _, .number _ | _, .text _ _ => groupFault brackets .missingComma rest
    | _, .name word =>
      if joiningNames.contains word then orderFault brackets .operand rest
      else if otherNames.contains word then .misplaced
      else groupFault brackets .missingComma rest
    | place, .mark sign =>
      if sign = "(" then orderFault (⟨'(', true⟩ :: brackets) (.start true) rest
      else if sign = ")" || sign = "\x7d" then orderFault brackets.tail .value rest
      else if sign = "," then orderFault brackets (.start false) rest
      else if sign = "\x7b" || sign = "..." then
        groupFault brackets .missingComma (token :: rest)
      else if sign = "." then
        match rest with
        | .name _ :: rest => orderFault brackets .value rest
        | [] => endFault brackets false
        | _ => .misplaced
      else if sign = "=" && place = .named then
        if brackets.head?.any Bracket.isCall then orderFault brackets .operand rest
        else groupFault brackets .assignment rest
      else if joiningMarks.contains sign
          || (sign = ":" && (brackets.head?.map Bracket.opening) = some '\x7b') then
        orderFault brackets .operand rest
      else .misplaced

/-- Why the text is no literal, if it is none. -/
def fault? (s : Text) : Option LiteralFault :=
  match tokensOf s with
  | .error fault => some fault
  | .ok tokens =>
    let tokens := tokens.dropWhile (· = .lineEnd)
    if isLiteral tokens then none else some (orderFault [] (.start true) tokens)

end Groundwork.Literal
