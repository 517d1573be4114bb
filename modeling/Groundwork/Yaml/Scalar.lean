import Groundwork.Data.Numeral
import Groundwork.Data.Value
import Groundwork.Text.Case

/-!
# Plain scalars

What a scalar without quotes stands for: null, a truth value, a number, a date, or the text itself.
`yes`, `no`, `on` and `off` are truth values, numbers may hold low lines, begin with `0` for base 8
or `0x` for base 16, and be written in base 60 with colons.
-/

namespace Groundwork.Yaml

/-- What the form of a plain scalar makes it. -/
inductive ScalarKind where
  | null
  | truth
  | whole
  | real
  | moment
  /-- The key that takes over the entries of other mappings. -/
  | merge
  /-- The sign `=`, which stands for a default value. -/
  | defaultValue
  | text
  deriving DecidableEq, Repr

/-- Words for true. -/
def trueWords : List Text :=
  ["yes", "Yes", "YES", "true", "True", "TRUE", "on", "On", "ON"].map String.toList

/-- Words for false. -/
def falseWords : List Text :=
  ["no", "No", "NO", "false", "False", "FALSE", "off", "Off", "OFF"].map String.toList

/-- Words for null. -/
def nullWords : List Text := ["", "~", "null", "Null", "NULL"].map String.toList

/-- A digit or a low line, which may stand between digits. -/
def isSpacedDigit (p : Char → Bool) (c : Char) : Bool := p c || c = '_'

/-- A digit of base 8. -/
def isOctalDigit (c : Char) : Bool := '0' ≤ c && c ≤ '7'

/-- A digit of base 2. -/
def isBinaryDigit (c : Char) : Bool := c = '0' || c = '1'

/-- A part after a colon of a number in base 60: one or two digits below sixty. -/
def isSixtieth : Text → Bool
  | [c] => c.isDigit
  | [c, d] => '0' ≤ c && c ≤ '5' && d.isDigit
  | _ => false

/-- Parts after a colon, at least one. -/
def areSixtieths (parts : List Text) : Bool := !parts.isEmpty && parts.all isSixtieth

/-- A number with digits only, low lines between them, and no zero in front. -/
def isUsualWhole : Text → Bool
  | ['0'] => true
  | c :: s => '1' ≤ c && c ≤ '9' && s.all (isSpacedDigit Char.isDigit)
  | [] => false

/-- The form of a whole number without its sign. -/
def isUnsignedWhole (s : Text) : Bool :=
  isUsualWhole s
  || (match s with
    | '0' :: 'b' :: c :: s => (c :: s).all (isSpacedDigit isBinaryDigit)
    | '0' :: 'x' :: c :: s => (c :: s).all (isSpacedDigit Decimal.isHexDigit)
    | '0' :: c :: s => (c :: s).all (isSpacedDigit isOctalDigit)
    | _ => false)
  || (match Text.split ':' s with
    | first :: parts => first ≠ ['0'] && isUsualWhole first && areSixtieths parts
    | [] => false)

/-- The form of a whole number. -/
def isWhole (s : Text) : Bool := isUnsignedWhole (Decimal.takeSign s).2

/-- Digits with low lines after the first one. -/
def isSpacedNumber : Text → Bool
  | [] => false
  | c :: s => c.isDigit && s.all (isSpacedDigit Char.isDigit)

/-- The digits and low lines of a fraction, which may be absent, and then perhaps an exponent with
    its sign. -/
def isFractionEnd (s : Text) : Bool :=
  match s.dropWhile (isSpacedDigit Char.isDigit) with
  | [] => true
  | e :: sign :: digits =>
    (e = 'e' || e = 'E') && (sign = '-' || sign = '+') && !digits.isEmpty
      && digits.all Char.isDigit
  | _ => false

/-- The words for infinity. -/
def infinityWords : List Text := [".inf", ".Inf", ".INF"].map String.toList

/-- The words for what is no number. -/
def notNumberWords : List Text := [".nan", ".NaN", ".NAN"].map String.toList

/-- Cut at the first point. -/
def atPoint (s : Text) : Option (Text × Text) :=
  match s.span (· ≠ '.') with
  | (_, []) => none
  | (front, _ :: back) => some (front, back)

/-- The form of a floating number. Only a number without a digit before the point takes no sign. -/
def isReal (s : Text) : Bool :=
  let unsigned := (Decimal.takeSign s).2
  notNumberWords.contains s || infinityWords.contains unsigned
  || (match atPoint s with
    | some ([], c :: back) => c.isDigit && isFractionEnd (c :: back)
    | _ => false)
  || (match atPoint unsigned with
    | none => false
    | some (front, back) =>
      (isSpacedNumber front && isFractionEnd back)
      || (match Text.split ':' front with
        | first :: parts =>
          isSpacedNumber first && areSixtieths parts && back.all (isSpacedDigit Char.isDigit)
        | [] => false))

/-- A time of day. -/
structure TimeOfDay where
  hour : Nat
  minute : Nat
  second : Nat
  /-- Minutes that the clock is ahead of universal time. -/
  ahead : Int
  deriving DecidableEq, Repr

/-- A date and perhaps a time of day. -/
structure Timestamp where
  year : Nat
  month : Nat
  day : Nat
  time : Option TimeOfDay
  deriving DecidableEq, Repr

/-- A number of `least` to `most` digits at the front. -/
def takeNumber (least most : Nat) (s : Text) : Option (Nat × Text) :=
  let digits := (s.take most).takeWhile Char.isDigit
  if digits.length < least then none
  else some (Decimal.valueOf 10 digits, s.drop digits.length)

/-- The minutes ahead of universal time: none for an absent zone and for `Z`, otherwise hours and
    perhaps minutes with a sign. -/
def zone? : Text → Option Int
  | [] | ['Z'] => some 0
  | sign :: s => do
    if sign ≠ '-' && sign ≠ '+' then none
    let (hours, s) ← takeNumber 1 2 s
    let (minutes, s) ← match s with
      | ':' :: s => takeNumber 2 2 s
      | s => some (0, s)
    let ahead : Int := 60 * hours + minutes
    if s.isEmpty then return if sign = '-' then -ahead else ahead else none

/-- The minutes ahead of universal time at the end of a time of day, where a fraction of a second
    and blanks may stand before the zone. -/
def timeEnd? (s : Text) : Option Int :=
  let s := match s with
    | '.' :: s => s.dropWhile Char.isDigit
    | s => s
  if s.isEmpty then some 0
  else match s.dropWhile fun c => c = ' ' || c = '\t' with
    | [] => none
    | s => zone? s

/-- What separates the time of day from the date: a `T`, or blanks. -/
def takeTimeSign : Text → Option Text
  | 'T' :: s => some s
  | 't' :: s => some s
  | c :: s =>
    if c = ' ' || c = '\t' then some (s.dropWhile fun c => c = ' ' || c = '\t') else none
  | [] => none

/-- The time of day, from its sign on, to the end of the text. -/
def takeTime (s : Text) : Option TimeOfDay := do
  let s ← takeTimeSign s
  let (hour, s) ← takeNumber 1 2 s
  let s ← Text.after? ":" s
  let (minute, s) ← takeNumber 2 2 s
  let s ← Text.after? ":" s
  let (second, s) ← takeNumber 2 2 s
  return ⟨hour, minute, second, ← timeEnd? s⟩

/-- The form of a date, perhaps with a time of day. -/
def timestamp? (s : Text) : Option Timestamp := do
  let (year, afterYear) ← takeNumber 4 4 s
  let afterYear ← Text.after? "-" afterYear
  let (month, afterMonth) ← takeNumber 1 2 afterYear
  let afterMonth ← Text.after? "-" afterMonth
  let (day, rest) ← takeNumber 1 2 afterMonth
  if rest.isEmpty then return ⟨year, month, day, none⟩
  else return ⟨year, month, day, some (← takeTime rest)⟩

/-- The form of a date without a mark. If it is a date by itself, the month and the day have two
    digits. -/
def isTimestamp (s : Text) : Bool :=
  match timestamp? s with
  | some t => t.time.isSome || s.length = 10
  | none => false

/-- The kind that a plain scalar's form gives it. -/
def kindOf (s : Text) : ScalarKind :=
  if nullWords.contains s then .null
  else if trueWords.contains s || falseWords.contains s then .truth
  else if isReal s then .real
  else if isWhole s then .whole
  else if isTimestamp s then .moment
  else if s = "<<" then .merge
  else if s = "=" then .defaultValue
  else .text

/-- Days of a month. -/
def daysOf (year month : Nat) : Nat :=
  if month = 2 then (if year % 4 = 0 && (year % 100 ≠ 0 || year % 400 = 0) then 29 else 28)
  else if [4, 6, 9, 11].contains month then 30
  else 31

/-- Minutes of a day. -/
def minutesOfDay : Nat := 24 * 60

/-- The date exists, and the time of day does; a zone is less than a day ahead or behind. -/
def Timestamp.check (t : Timestamp) : Except Failure Unit := do
  if let some time := t.time then
    if minutesOfDay ≤ time.ahead.natAbs then throw (.noSuchZone time.ahead)
  if t.year = 0 then throw (.noSuchDate .year)
  if t.month = 0 || 12 < t.month then throw (.noSuchDate .month)
  if t.day = 0 || daysOf t.year t.month < t.day then throw (.noSuchDate .day)
  if let some time := t.time then
    if 24 ≤ time.hour then throw (.noSuchDate .hour)
    if 60 ≤ time.minute then throw (.noSuchDate .minute)
    if 60 ≤ time.second then throw (.noSuchDate .second)

/-- The whole number that a scalar stands for. -/
def wholeOf (s : Text) : Except Failure Int := do
  let s := s.filter (· ≠ '_')
  let (negative, unsigned) := Decimal.takeSign s
  let n ← match unsigned with
    | [] => .error .numberMissing
    | ['0'] => .ok 0
    | '0' :: 'b' :: digits => Numeral.whole 2 digits
    | '0' :: 'x' :: digits => Numeral.whole 16 digits
    | '0' :: _ => Numeral.whole 8 unsigned
    | _ => do
      let parts ← (Text.split ':' unsigned).mapM (Numeral.whole 10)
      pure (parts.foldl (fun n part => n * 60 + part) 0)
  return if negative then -n else n

/-- The largest exponent of ten, and its negative the smallest one, for which parts in base 60 are
    added up. -/
def exponentLimit : Nat := 5000

/-- The whole number that parts in base 60 equal together as a floating number. -/
def sixtiethsWhole? (negative : Bool) (parts : List Numeral.Scientific) : Option Int :=
  if parts.any fun part => exponentLimit < part.exponent.natAbs then none
  else
    let least := (parts.map (·.exponent)).foldl min 0
    let total : Int := parts.foldl (fun n part => n * 60 + part.inUnits least) 0
    Decimal.whole? (negative != decide (total < 0)) total.natAbs least

/-- The floating number that a scalar stands for. -/
def realOf (s : Text) : Except Failure Value := do
  let s := Text.lower (s.filter (· ≠ '_'))
  let (negative, unsigned) := Decimal.takeSign s
  if s.isEmpty then throw .numberMissing
  if unsigned = ".inf" || unsigned = ".nan" then return .real none
  let parts ← (Text.split ':' unsigned).mapM fun part =>
    match Numeral.decimal? part with
    | some d => .ok d
    | none => .error (Failure.noReal part)
  match parts with
  | [some d] =>
    return .real (Numeral.Scientific.whole? { d with negative := negative != d.negative })
  | _ => return .real ((parts.mapM id).bind (sixtiethsWhole? negative))

/-- The value of a plain scalar. The signs for merging and for a default value are no values. -/
def valueOf (s : Text) : Except Failure Value :=
  match kindOf s with
  | .null => .ok .null
  | .truth => .ok (.truth (trueWords.contains s))
  | .whole => (wholeOf s).map .whole
  | .real => realOf s
  | .moment =>
    match timestamp? s with
    | none => .ok (.text s)
    | some t => do
      t.check
      return .moment
  | .merge | .defaultValue => .error .settingsMalformed
  | .text => .ok (.text s)

end Groundwork.Yaml
