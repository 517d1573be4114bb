import Groundwork.Yaml.ScalarText

/-!
# Tokens of a document

A document is cut into tokens. Indentation becomes explicit: a block collection begins with a token
of its own and ends with `blockEnd`. A key needs no sign in front of it; that a scalar or a
collection was a key shows only at the colon after it, so the place of every possible key is kept
until then, and the token `key` is put in at that place.

`tokens` gives the tokens of a document, or the failure if it cannot be cut into tokens.
-/

namespace Groundwork.Yaml

/-- A token of a document. -/
inductive Token where
  /-- The directive `%YAML`, with the major version. -/
  | version (major : Nat)
  /-- The directive `%TAG`, with the short form and what it stands for. -/
  | tagHandle (handle base : Text)
  /-- Any other directive. -/
  | otherDirective
  | documentStart
  | documentEnd
  | streamEnd
  | blockSequenceStart
  | blockMappingStart
  | blockEnd
  | flowSequenceStart
  | flowSequenceEnd
  | flowMappingStart
  | flowMappingEnd
  | key
  | value
  | blockEntry
  | flowEntry
  | reference (name : Text)
  | anchor (name : Text)
  | tag (handle : Option Text) (rest : Text)
  | scalar (text : Text) (plain : Bool)
  /-- A quoted scalar of which some parts are no characters; another character is in their
      places. -/
  | brokenScalar (text : Text)
  deriving DecidableEq, Repr

/-- A place where a key without a sign may have begun. -/
structure KeyPlace where
  /-- Tokens before the key. -/
  tokenCount : Nat
  /-- Something else than a key cannot stand there. -/
  required : Bool
  index : Nat
  line : Nat
  column : Nat

/-- Where the cutting of a document has come to. -/
structure Scan where
  cursor : Cursor
  /-- The place of a possible key, for each open bracket and for the surroundings of all of them,
      innermost first. -/
  keyPlaces : List (Option KeyPlace) := [none]
  /-- The column of the innermost block collection, and those of the ones around it. -/
  indent : Int := -1
  outerIndents : List Int := []
  /-- A key without a sign may begin here. -/
  keyAllowed : Bool := true
  /-- The tokens so far, the last one first. -/
  tokens : List Token := []

namespace Scan

/-- The scan is within brackets or braces. -/
def inFlow (s : Scan) : Bool := s.keyPlaces.length > 1

/-- One more token. -/
def push (s : Scan) (token : Token) : Scan := { s with tokens := token :: s.tokens }

/-- A token put in after the first `count` ones. -/
def insert (s : Scan) (count : Nat) (token : Token) : Scan :=
  let later := s.tokens.length - count
  { s with tokens := s.tokens.take later ++ token :: s.tokens.drop later }

/-- The place of a possible key at the present level. -/
def keyPlace? (s : Scan) : Option KeyPlace := s.keyPlaces.head?.join

/-- The present level with another place of a possible key. -/
def setKeyPlace (s : Scan) (place : Option KeyPlace) : Scan :=
  { s with keyPlaces := place :: s.keyPlaces.drop 1 }

/-- A key has to be on one line and at most 1024 characters long. -/
def isStale (s : Scan) (place : KeyPlace) : Bool :=
  place.line ≠ s.cursor.line || place.index + 1024 < s.cursor.index

/-- The scan without the places that are too far back; nothing if a key was required there. -/
def dropStale (s : Scan) : Option Scan := do
  let keyPlaces ← s.keyPlaces.mapM fun place =>
    match place with
    | some place =>
      if s.isStale place then (if place.required then none else some none) else some (some place)
    | none => some none
  return { s with keyPlaces }

/-- The scan without a possible key at the present level; nothing if one was required. -/
def dropKeyPlace (s : Scan) : Option Scan :=
  match s.keyPlace? with
  | some place => if place.required then none else some (s.setKeyPlace none)
  | none => some s

/-- The scan with this place as that of a possible key, if a key may stand here. -/
def markKeyPlace (s : Scan) : Option Scan :=
  if s.keyAllowed then do
    let s ← s.dropKeyPlace
    let required : Bool := !s.inFlow && s.indent = s.cursor.column
    return s.setKeyPlace (some
      ⟨s.tokens.length, required, s.cursor.index, s.cursor.line, s.cursor.column⟩)
  else some s

/-- End the block collections that are indented more than `column`, the outer ones given. -/
def unwindTo (column : Int) (s : Scan) : List Int → Scan
  | [] => { s with outerIndents := [] }
  | outer :: outers =>
    if column < s.indent then unwindTo column { s.push .blockEnd with indent := outer } outers
    else { s with outerIndents := outer :: outers }

/-- End the block collections that are indented more than `column`. Within brackets indentation
    does not count. -/
def unwind (s : Scan) (column : Int) : Scan :=
  if s.inFlow then s else unwindTo column s s.outerIndents

/-- Begin a block collection at a column, unless one is open there; `start` is put in after the
    first `count` tokens. -/
def indentTo (s : Scan) (column : Nat) (count : Nat) (start : Token) : Scan :=
  if s.indent < column then
    { s.insert count start with indent := column, outerIndents := s.indent :: s.outerIndents }
  else s

/-- Skip blanks, comments and line ends. After a line end a key may begin. -/
def skipBlanks : (fuel : Nat) → Scan → Scan
  | 0, s => s
  | fuel + 1, s =>
    let pos := s.cursor.dropWhile (· = ' ')
    let pos := if pos.here? = some '#' then pos.dropWhile (!isBreak ·) else pos
    match pos.takeBreak with
    | ([], _) => { s with cursor := pos }
    | (_, pos) => skipBlanks fuel { s with cursor := pos, keyAllowed := s.keyAllowed || !s.inFlow }

/-- Prepare for something at the left margin that is not part of the contents. -/
def leaveContents (s : Scan) : Option Scan := do
  let s ← (s.unwind (-1)).dropKeyPlace
  return { s with keyAllowed := false }

/-- The short form of a tag's address: `!` before a space, or a name between exclamation marks. -/
def takeHandle (pos : Cursor) : Option (Text × Cursor) :=
  if pos.here? ≠ some '!' then none
  else if pos.ahead? 1 = some ' ' then some (['!'], pos.step)
  else
    let (name, after) := pos.step.takeWhile isNameChar
    if after.here? = some '!' then some ('!' :: name ++ ['!'], after.step) else none

/-- Bytes written as a percent sign and two digits each. -/
def takeBytes : (fuel : Nat) → Cursor → Option (List UInt8 × Cursor)
  | 0, _ => none
  | fuel + 1, pos =>
    if pos.here? = some '%' then
      let digits := pos.step.rest.take 2
      if digits.length = 2 && digits.all Decimal.isHexDigit then do
        let (bytes, pos) ← takeBytes fuel (pos.skip 3)
        return (UInt8.ofNat (Decimal.valueOf 16 digits) :: bytes, pos)
      else none
    else some ([], pos)

/-- A character of a tag's address, other than the percent sign. -/
def isAddressChar (c : Char) : Bool :=
  c.isAlphanum || "-;/?:@&=+$,_.!~*'()[]".toList.contains c

/-- The parts of a tag's address. -/
def takeAddressParts : (fuel : Nat) → Cursor → Option (Text × Cursor)
  | 0, _ => none
  | fuel + 1, pos =>
    if pos.here? = some '%' then do
      let (bytes, pos) ← takeBytes fuel pos
      let part ← String.fromUTF8? ⟨bytes.toArray⟩
      let (more, pos) ← takeAddressParts fuel pos
      return (part.toList ++ more, pos)
    else
      match pos.takeWhile isAddressChar with
      | ([], _) => some ([], pos)
      | (part, pos) => do
        let (more, pos) ← takeAddressParts fuel pos
        return (part ++ more, pos)

/-- A tag's address, which is not empty. -/
def takeAddress (pos : Cursor) : Option (Text × Cursor) :=
  match takeAddressParts (pos.rest.length + 1) pos with
  | some ([], _) => none
  | found => found

/-- A directive from after its percent sign to the end of its line. -/
def takeDirective (pos : Cursor) : Option (Token × Cursor) := do
  let (name, pos) := pos.takeWhile isNameChar
  if name.isEmpty || !isSpaceOrEnd pos.here? then none
  else if name = "YAML" then
    let (major, pos) := (pos.dropWhile (· = ' ')).takeWhile Char.isDigit
    if major.isEmpty || pos.here? ≠ some '.' then none
    else
      let (minor, pos) := pos.step.takeWhile Char.isDigit
      if minor.isEmpty || !isSpaceOrEnd pos.here? then none
      else return (.version (Decimal.valueOf 10 major), ← takeIgnoredLine pos)
  else if name = "TAG" then
    let (handle, pos) ← takeHandle (pos.dropWhile (· = ' '))
    if pos.here? ≠ some ' ' then none
    else
      let (base, pos) ← takeAddress (pos.dropWhile (· = ' '))
      if !isSpaceOrEnd pos.here? then none
      else return (.tagHandle handle base, ← takeIgnoredLine pos)
  else return (.otherDirective, ← takeIgnoredLine (pos.dropWhile (!isBreak ·)))

/-- The name of an anchor, from after its sign. -/
def takeName (pos : Cursor) : Option (Text × Cursor) :=
  let (name, after) := pos.takeWhile isNameChar
  let closes (c : Char) := "?:,]%@`".toList.contains c || c = '\x7d'
  if name.isEmpty || !(endsWord after.here? || after.here?.any closes) then none
  else some (name, after)

/-- The word at hand holds an exclamation mark. -/
def holdsMark (s : Text) : Bool :=
  (s.takeWhile fun c => c ≠ ' ' && !isBreak c).contains '!'

/-- A tag from its exclamation mark on. -/
def takeTag (pos : Cursor) : Option (Token × Cursor) := do
  let (token, pos) ←
    if pos.ahead? 1 = some '<' then do
      let (address, pos) ← takeAddress (pos.skip 2)
      if pos.here? = some '>' then some (Token.tag none address, pos.step) else none
    else if endsWord (pos.ahead? 1) then some (Token.tag none ['!'], pos.step)
    else do
      let (handle, pos) ←
        if holdsMark pos.step.rest then takeHandle pos else some (['!'], pos.step)
      let (address, pos) ← takeAddress pos
      return (Token.tag (some handle) address, pos)
  if isSpaceOrEnd pos.here? then return (token, pos) else none

/-- Add a token that ends at a place, where no key may begin. -/
def pushAt (s : Scan) (token : Token) (pos : Cursor) : Scan :=
  { s.push token with cursor := pos, keyAllowed := false }

/-- Open a bracket or brace. -/
def openFlow (s : Scan) (token : Token) : Option Scan := do
  let s ← s.markKeyPlace
  return { s.push token with
    keyPlaces := none :: s.keyPlaces, keyAllowed := true, cursor := s.cursor.step }

/-- Close a bracket or brace; one has to be open. -/
def closeFlow (s : Scan) (token : Token) : Option Scan :=
  if !s.inFlow then none
  else do
    let s ← s.dropKeyPlace
    return { s.push token with
      keyPlaces := s.keyPlaces.drop 1, keyAllowed := false, cursor := s.cursor.step }

/-- The comma between two items within brackets. -/
def flowEntry (s : Scan) : Option Scan := do
  let s ← s.dropKeyPlace
  return { s.push .flowEntry with keyAllowed := true, cursor := s.cursor.step }

/-- The hyphen before an item of a block sequence. -/
def blockEntry (s : Scan) : Option Scan := do
  let s ←
    if s.inFlow then some s
    else if !s.keyAllowed then none
    else some (s.indentTo s.cursor.column s.tokens.length .blockSequenceStart)
  let s ← s.dropKeyPlace
  return { s.push .blockEntry with keyAllowed := true, cursor := s.cursor.step }

/-- The question mark before a key. -/
def signedKey (s : Scan) : Option Scan := do
  let s ←
    if s.inFlow then some s
    else if !s.keyAllowed then none
    else some (s.indentTo s.cursor.column s.tokens.length .blockMappingStart)
  let s ← s.dropKeyPlace
  return { s.push .key with keyAllowed := !s.inFlow, cursor := s.cursor.step }

/-- The colon after a key. -/
def keyValue (s : Scan) : Option Scan :=
  match s.keyPlace? with
  | some place =>
    let s := (s.setKeyPlace none).insert place.tokenCount .key
    let s := if s.inFlow then s else s.indentTo place.column place.tokenCount .blockMappingStart
    some { s.push .value with keyAllowed := false, cursor := s.cursor.step }
  | none =>
    if !s.inFlow && !s.keyAllowed then none
    else
      let s := if s.inFlow then s
        else s.indentTo s.cursor.column s.tokens.length .blockMappingStart
      some { s.push .value with keyAllowed := !s.inFlow, cursor := s.cursor.step }

/-- The token of a quoted scalar. -/
def quotedToken (text : QuotedText) : Token :=
  let shown := text.map fun c => c.getD '\ufffd'
  if text.all Option.isSome then .scalar shown false else .brokenScalar shown

/-- A scalar between quotes. -/
def quotedScalar (s : Scan) (double : Bool) : Except Failure Scan := do
  let s ← orMalformed s.markKeyPlace
  let pos := s.cursor.step
  let (text, pos) ← takeQuoted double (pos.rest.length + 1) pos
  return s.pushAt (quotedToken text) pos

/-- A scalar as a block of lines. -/
def blockScalar (s : Scan) (isFolded : Bool) : Option Scan := do
  let s ← s.dropKeyPlace
  let (text, pos) ← takeBlock isFolded s.indent s.cursor.step
  return { s.push (.scalar text false) with cursor := pos, keyAllowed := true }

/-- A scalar without quotes can begin here. -/
def startsPlain (s : Scan) (c : Char) : Bool :=
  let isMark := "-?:,[]#&*!|>'\"%@`".toList.contains c || c = '\x7b' || c = '\x7d'
  !(endsWord (some c) || isMark)
    || (!endsWord (s.cursor.ahead? 1) && (c = '-' || (!s.inFlow && (c = '?' || c = ':'))))

/-- A scalar without quotes. -/
def plainScalar (s : Scan) : Option Scan := do
  let s ← s.markKeyPlace
  let (text, broke, pos) :=
    takePlain s.inFlow (s.indent + 1) (s.cursor.rest.length + 1) [] false s.cursor
  return { s.push (.scalar text true) with cursor := pos, keyAllowed := broke }

/-- An alias or an anchor. -/
def named (s : Scan) (token : Text → Token) : Option Scan := do
  let s ← s.markKeyPlace
  let (name, pos) ← takeName s.cursor.step
  return s.pushAt (token name) pos

/-- Cut off the token that begins with the character `c`, other than a quoted scalar. -/
def plainTokenAt (s : Scan) (c : Char) : Option Scan :=
  let next := s.cursor.ahead? 1
  let atMargin : Bool := s.cursor.column = 0
  if c = '%' && atMargin then do
    let s ← s.leaveContents
    let (token, pos) ← takeDirective s.cursor.step
    return s.pushAt token pos
  else if atMargin && s.cursor.isTripled '-' then do
    let s ← s.leaveContents
    return s.pushAt .documentStart (s.cursor.skip 3)
  else if atMargin && s.cursor.isTripled '.' then do
    let s ← s.leaveContents
    return s.pushAt .documentEnd (s.cursor.skip 3)
  else if c = '[' then s.openFlow .flowSequenceStart
  else if c = '\x7b' then s.openFlow .flowMappingStart
  else if c = ']' then s.closeFlow .flowSequenceEnd
  else if c = '\x7d' then s.closeFlow .flowMappingEnd
  else if c = ',' then s.flowEntry
  else if c = '-' && endsWord next then s.blockEntry
  else if c = '?' && (s.inFlow || endsWord next) then s.signedKey
  else if c = ':' && (s.inFlow || endsWord next) then s.keyValue
  else if c = '*' then s.named .reference
  else if c = '&' then s.named .anchor
  else if c = '!' then do
    let s ← s.markKeyPlace
    let (token, pos) ← takeTag s.cursor
    return s.pushAt token pos
  else if c = '|' && !s.inFlow then s.blockScalar false
  else if c = '>' && !s.inFlow then s.blockScalar true
  else if s.startsPlain c then s.plainScalar
  else none

/-- Cut off the token that begins with the character `c`. -/
def tokenAt (s : Scan) (c : Char) : Except Failure Scan :=
  if c = '\'' || c = '"' then s.quotedScalar (c = '"') else orMalformed (s.plainTokenAt c)

/-- The tokens from here on, in order, after those cut off already. Every round but the last takes
    at least one character. -/
def finish : (fuel : Nat) → Scan → Except Failure (List Token)
  | 0, _ => .error .settingsMalformed
  | fuel + 1, s => do
    let s ← orMalformed (skipBlanks (s.cursor.rest.length + 1) s).dropStale
    let s := s.unwind s.cursor.column
    match s.cursor.here? with
    | none =>
      let s ← orMalformed (s.unwind (-1)).dropKeyPlace
      return (s.push .streamEnd).tokens.reverse
    | some c =>
      let s ← s.tokenAt c
      finish fuel s

end Scan

/-- A byte order mark at the front counts for nothing. -/
def start (s : Text) : Cursor :=
  let pos : Cursor := { rest := s }
  if pos.here? = some '\ufeff' then pos.step else pos

/-- The tokens of a document. -/
def tokens (s : Text) : Except Failure (List Token) :=
  if s.all isPrintable then Scan.finish (s.length + 2) { cursor := start s }
  else .error .settingsMalformed

end Groundwork.Yaml
