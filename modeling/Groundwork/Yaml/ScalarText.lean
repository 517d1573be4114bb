import Groundwork.Data.Decimal
import Groundwork.Failure
import Groundwork.Yaml.Cursor

/-!
# The texts of scalars

A scalar is written plain, between quotes, or as a block of lines. Here each form is read from the
place where it begins; the result is its text and the place after it, or nothing if the form is
broken off or malformed. Single line ends within a scalar become spaces, except in literal blocks.
-/

namespace Groundwork.Yaml

/-- Characters written by a backslash and a letter. -/
def escapes : List (Char × Char) :=
  [('0', '\x00'), ('a', '\x07'), ('b', '\x08'), ('t', '\t'), ('\t', '\t'), ('n', '\n'),
   ('v', '\x0b'), ('f', '\x0c'), ('r', '\r'), ('e', '\x1b'), (' ', ' '), ('"', '"'), ('\\', '\\'),
   ('/', '/'), ('N', '\x85'), ('_', '\xa0'), ('L', '\u2028'), ('P', '\u2029')]

/-- The number of digits after a backslash and this letter. -/
def escapeDigits (c : Char) : Option Nat :=
  if c = 'x' then some 2 else if c = 'u' then some 4 else if c = 'U' then some 8 else none

/-- The line ends and blanks between two lines of a quoted scalar; the result is the ends of the
    lines. A document mark is not allowed there. -/
def takeQuotedBreaks : (fuel : Nat) → Cursor → Option (Text × Cursor)
  | 0, _ => none
  | fuel + 1, pos =>
    if pos.isDocumentMark then none
    else
      let pos := pos.dropWhile fun c => c = ' ' || c = '\t'
      match pos.takeBreak with
      | ([], _) => some ([], pos)
      | (lineEnd, pos) => do
        let (more, pos) ← takeQuotedBreaks fuel pos
        return (lineEnd ++ more, pos)

/-- The text that stands for one line end and those after it: a single one becomes a space. -/
def folded (lineEnd more : Text) : Text :=
  if lineEnd ≠ ['\n'] then lineEnd ++ more
  else if more.isEmpty then [' '] else more

/-- The blanks at the front of a quoted scalar's next part. -/
def takeQuotedBlanks (fuel : Nat) (pos : Cursor) : Option (Text × Cursor) :=
  let (blanks, after) := pos.takeWhile fun c => c = ' ' || c = '\t'
  match after.here? with
  | none => none
  | some _ =>
    match after.takeBreak with
    | ([], _) => some (blanks, after)
    | (lineEnd, after) => do
      let (more, after) ← takeQuotedBreaks fuel after
      return (folded lineEnd more, after)

/-- What was found, or the failure of a document that is none. -/
def orMalformed {α : Type} : Option α → Except Failure α
  | some a => .ok a
  | none => .error .settingsMalformed

/-- A part of a quoted scalar. Numbers may be written in it that no character has. -/
abbrev QuotedText := List (Option Char)

/-- The character of this number, which is missing for half a character. Beyond the last character
    there is nothing. -/
def charOfNumber (n : Nat) : Except Failure (Option Char) :=
  if n < 0xD800 || (0xE000 ≤ n && n < 0x110000) then .ok (some (Char.ofNat n))
  else if n < 0x110000 then .ok none
  else if n < 0x80000000 then .error .noSuchCharacter
  else .error .characterOverflow

/-- What a backslash in a double-quoted scalar stands for; the place is after the backslash. -/
def takeEscape (fuel : Nat) (pos : Cursor) : Except Failure (QuotedText × Cursor) := do
  let c ← orMalformed pos.here?
  match escapes.lookup c with
  | some plain => return ([some plain], pos.step)
  | none =>
    match escapeDigits c with
    | some n =>
      let digits := pos.step.rest.take n
      if digits.length = n && digits.all Decimal.isHexDigit then
        return ([← charOfNumber (Decimal.valueOf 16 digits)], pos.skip (n + 1))
      else throw .settingsMalformed
    | none =>
      match pos.takeBreak with
      | ([], _) => throw .settingsMalformed
      | (_, after) =>
        let (part, after) ← orMalformed (takeQuotedBreaks fuel after)
        return (part.map some, after)

/-- A quoted scalar from after its opening quote to after its closing one. -/
def takeQuoted (double : Bool) : (fuel : Nat) → Cursor → Except Failure (QuotedText × Cursor)
  | 0, _ => .error .settingsMalformed
  | fuel + 1, pos => do
    let c ← orMalformed pos.here?
    let goOn (part : QuotedText) (pos : Cursor) : Except Failure (QuotedText × Cursor) := do
      let (more, pos) ← takeQuoted double fuel pos
      return (part ++ more, pos)
    if c = ' ' || c = '\t' || isBreak c then
      let (part, pos) ← orMalformed (takeQuotedBlanks fuel pos)
      goOn (part.map some) pos
    else if double then
      if c = '"' then return ([], pos.step)
      else if c = '\\' then
        let (part, pos) ← takeEscape fuel pos.step
        goOn part pos
      else goOn [some c] pos.step
    else if c = '\'' then
      if pos.ahead? 1 = some '\'' then goOn [some '\''] (pos.skip 2) else return ([], pos.step)
    else goOn [some c] pos.step

/-- The words of a plain scalar up to a blank or to what ends the scalar. -/
def takePlainWord (inFlow : Bool) : Text → Text
  | [] => []
  | c :: s =>
    let next := s.head?
    let isFlowMark (c : Char) := c = ',' || c = '[' || c = ']' || c = '\x7b' || c = '\x7d'
    if endsWord (some c) then []
    else if c = ':' && (endsWord next || (inFlow && next.any isFlowMark)) then []
    else if inFlow && (isFlowMark c || c = '?') then []
    else c :: takePlainWord inFlow s

/-- What stands between two words of a plain scalar. -/
structure PlainGap where
  /-- The text that stands for the gap; empty if the scalar ends before the gap. -/
  text : Text
  /-- A line ends in the gap. -/
  breaksLine : Bool
  after : Cursor

/-- The line ends and spaces after a line end of a plain scalar. Nothing if a document mark comes
    first, then only the place. -/
def takePlainBreaks : (fuel : Nat) → Cursor → Option Text × Cursor
  | 0, pos => (none, pos)
  | fuel + 1, pos =>
    if pos.here? = some ' ' then takePlainBreaks fuel pos.step
    else match pos.takeBreak with
      | ([], _) => (some [], pos)
      | (lineEnd, pos) =>
        if pos.isDocumentMark then (none, pos)
        else
          let (more, pos) := takePlainBreaks fuel pos
          (more.map (lineEnd ++ ·), pos)

/-- The gap after a word of a plain scalar. -/
def takePlainGap (fuel : Nat) (pos : Cursor) : PlainGap :=
  let (spaces, after) := pos.takeWhile (· = ' ')
  match after.takeBreak with
  | ([], _) => ⟨spaces, false, after⟩
  | (lineEnd, after) =>
    if after.isDocumentMark then ⟨[], true, after⟩
    else match takePlainBreaks fuel after with
      | (none, after) => ⟨[], true, after⟩
      | (some more, after) => ⟨folded lineEnd more, true, after⟩

/-- A plain scalar, read up to its text, whether a line ends in the gap after it, and the place
    after that gap. Its further lines are indented by at least `indent` columns, except within
    brackets. -/
def takePlain (inFlow : Bool) (indent : Int) : (fuel : Nat) → (gap : Text) → (broke : Bool) →
    Cursor → Text × Bool × Cursor
  | 0, _, broke, pos => ([], broke, pos)
  | fuel + 1, gap, broke, pos =>
    let word := if pos.here? = some '#' then [] else takePlainWord inFlow pos.rest
    if word.isEmpty then ([], broke, pos)
    else
      let next := takePlainGap fuel (pos.skip word.length)
      let text := gap ++ word
      if next.text.isEmpty || next.after.here? = some '#'
          || (!inFlow && next.after.column < indent) then
        (text, next.breaksLine, next.after)
      else
        let (more, broke, pos) := takePlain inFlow indent fuel next.text next.breaksLine next.after
        (text ++ more, broke, pos)

/-- What happens to the line ends after the last line of a block. -/
inductive Chomping where
  /-- The first is kept. -/
  | clip
  /-- None is kept. -/
  | strip
  /-- All are kept. -/
  | keep
  deriving DecidableEq, Repr

/-- The sign for a chomping at the front. -/
def takeChomping (pos : Cursor) : Option Chomping × Cursor :=
  if pos.here? = some '+' then (some .keep, pos.step)
  else if pos.here? = some '-' then (some .strip, pos.step)
  else (none, pos)

/-- The digit for an indentation at the front; zero is not allowed. -/
def takeIncrement (pos : Cursor) : Option (Option Nat × Cursor) :=
  match pos.here? with
  | none => some (none, pos)
  | some c =>
    if c = '0' then none
    else if c.isDigit then some (some (Decimal.digitValue c), pos.step)
    else some (none, pos)

/-- The signs at the head of a block, in either order. -/
def takeBlockSigns (pos : Cursor) : Option (Chomping × Option Nat × Cursor) := do
  let (chomping, pos) := takeChomping pos
  let (increment, pos) ← takeIncrement pos
  let (chomping, pos) := match chomping, increment with
    | none, some _ => takeChomping pos
    | _, _ => (chomping, pos)
  if isSpaceOrEnd pos.here? then return (chomping.getD .clip, increment, pos) else none

/-- The rest of a line that may hold spaces and a comment only, and its end. -/
def takeIgnoredLine (pos : Cursor) : Option Cursor :=
  let pos := pos.dropWhile (· = ' ')
  let pos := if pos.here? = some '#' then pos.dropWhile (!isBreak ·) else pos
  if endsLine pos.here? then some pos.takeBreak.2 else none

/-- Empty lines and the spaces before the first line of a block: the line ends, and the largest
    column that spaces reach. -/
def takeBlockIndentation : (fuel : Nat) → (widest : Nat) → Cursor → Text × Nat × Cursor
  | 0, widest, pos => ([], widest, pos)
  | fuel + 1, widest, pos =>
    if pos.here? = some ' ' then
      takeBlockIndentation fuel (max widest (pos.column + 1)) pos.step
    else match pos.takeBreak with
      | ([], _) => ([], widest, pos)
      | (lineEnd, pos) =>
        let (more, widest, pos) := takeBlockIndentation fuel widest pos
        (lineEnd ++ more, widest, pos)

/-- The spaces that indent a line of a block, at most up to the column `indent`. -/
def dropIndent (indent : Nat) (pos : Cursor) : Cursor :=
  pos.skip (min (indent - pos.column) (pos.rest.takeWhile (· = ' ')).length)

/-- Empty lines of a block and the indentation of the line after them. -/
def takeBlockBreaks (indent : Nat) : (fuel : Nat) → Cursor → Text × Cursor
  | 0, pos => ([], pos)
  | fuel + 1, pos =>
    let pos := dropIndent indent pos
    match pos.takeBreak with
    | ([], _) => ([], pos)
    | (lineEnd, pos) =>
      let (more, pos) := takeBlockBreaks indent fuel pos
      (lineEnd ++ more, pos)

/-- A space or a tab is here. -/
def startsBlank (pos : Cursor) : Bool := pos.here? = some ' ' || pos.here? = some '\t'

/-- The lines of a block from the first one that is not empty: the text without the line ends
    after the last line, the first of these, and the others. -/
def takeBlockLines (isFolded : Bool) (indent : Nat) : (fuel : Nat) → (before : Text) → Cursor →
    Text × Text × Text × Cursor
  | 0, before, pos => ([], [], before, pos)
  | fuel + 1, before, pos =>
    let flush := !startsBlank pos
    let (line, pos) := pos.takeWhile (!isBreak ·)
    let (lineEnd, pos) := pos.takeBreak
    let (empties, pos) := takeBlockBreaks indent fuel pos
    if pos.column = indent && pos.here?.isSome then
      let joint : Text :=
        if isFolded && lineEnd = ['\n'] && flush && !startsBlank pos then
          (if empties.isEmpty then [' '] else [])
        else lineEnd
      let (text, lineEnd, empties, pos) := takeBlockLines isFolded indent fuel empties pos
      (before ++ line ++ joint ++ text, lineEnd, empties, pos)
    else (before ++ line, lineEnd, empties, pos)

/-- A block scalar from after its sign `|` or `>`, in a collection that is indented by `indent`
    columns; a document at top level has the indentation -1. -/
def takeBlock (isFolded : Bool) (indent : Int) (pos : Cursor) : Option (Text × Cursor) := do
  let fuel := pos.rest.length + 1
  let (chomping, increment, pos) ← takeBlockSigns pos
  let pos ← takeIgnoredLine pos
  let least := (max (indent + 1) 1).toNat
  let (empties, column, pos) :=
    match increment with
    | none =>
      let (empties, widest, pos) := takeBlockIndentation fuel 0 pos
      (empties, max least widest, pos)
    | some n =>
      let (empties, pos) := takeBlockBreaks (least + n - 1) fuel pos
      (empties, least + n - 1, pos)
  let (text, lineEnd, empties, pos) :=
    if pos.column = column && pos.here?.isSome then
      takeBlockLines isFolded column fuel empties pos
    else ([], [], empties, pos)
  return (text ++ (if chomping = .strip then [] else lineEnd)
    ++ (if chomping = .keep then empties else []), pos)

end Groundwork.Yaml
