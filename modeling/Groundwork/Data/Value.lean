import Groundwork.Data.Issue

/-!
# Loose data

What project files hold, before anything is known about its form. The same values stand for the
contents of files of all formats.
-/

namespace Groundwork

/-- A value of loose data. -/
inductive Value where
  | null
  | truth (b : Bool)
  | whole (n : Int)
  /-- A floating number, by the whole number that it equals, if there is one. -/
  | real (whole? : Option Int)
  | text (t : Text)
  /-- A text of which some parts are no characters; another character is in their places. -/
  | brokenText (t : Text)
  /-- Bytes that are written in place of a text. -/
  | bytes (content : List UInt8)
  /-- A date, with or without a time of day. -/
  | moment
  | list (items : List Value)
  /-- Where a key occurs more than once, its last value counts. -/
  | mapping (entries : List (Value × Value))
  deriving Repr, Inhabited

namespace Value

/-- The value counts as absent: null, false, zero, or without contents. -/
def isHollow : Value → Bool
  | null => true
  | truth b => !b
  | whole n => n = 0
  | real n => n = some 0
  | text t => t.isEmpty
  | brokenText t => t.isEmpty
  | bytes content => content.isEmpty
  | moment => false
  | list items => items.isEmpty
  | mapping entries => entries.isEmpty

/-- The text of a row of characters, some of which may be missing. -/
def ofCharacters (cs : List (Option Char)) : Value :=
  let t := cs.map fun c => c.getD '\ufffd'
  if cs.all Option.isSome then text t else brokenText t

/-- The value with the mark that its text has parts that are no characters. -/
def broken : Value → Value
  | text t => brokenText t
  | value => value

/-- The text that bytes are in UTF-8. -/
def textOfBytes? (content : List UInt8) : Option Text :=
  (String.fromUTF8? ⟨content.toArray⟩).map String.toList

/-- The value of a key that is a text. -/
def lookup? (entries : List (Value × Value)) (key : Text) : Option Value :=
  (entries.findRev? fun (k, _) => match k with
    | text t => t = key
    | _ => false).map Prod.snd

/-- The first of several keys that has a value, with the value. -/
def lookupFirst? (entries : List (Value × Value)) (keys : List Text) : Option (Text × Value) :=
  keys.findSome? fun key => (lookup? entries key).map fun value => (key, value)

/-- Words for true, in lower case. -/
def yesWords : List Text := ["1", "on", "t", "true", "y", "yes"].map String.toList

/-- Words for false, in lower case. -/
def noWords : List Text := ["0", "off", "f", "false", "n", "no"].map String.toList

/-- 2^63: the numbers of 64 bits lie below it, and not below its negative. -/
def wordLimit : Nat := 9223372036854775808

/-- One is true and zero is false. -/
def truthOfWhole (n : Int) : Except IssueKind Bool :=
  if n = 0 then .ok false else if n = 1 then .ok true else .error .unknownTruth

/-- A word is a truth value in any case of its letters. -/
def truthOfText (t : Text) : Except IssueKind Bool :=
  let w := t.map Char.toLower
  if yesWords.contains w then .ok true
  else if noWords.contains w then .ok false
  else .error .unknownTruth

/-- The truth value that a value stands for. A number that is not whole or has no place in 64 bits
    is not looked at; among the floating numbers, -2^63 counts as one of these too. -/
def toTruth : Value → Except IssueKind Bool
  | truth b => .ok b
  | whole n =>
    if -(wordLimit : Int) ≤ n && n < wordLimit then truthOfWhole n else .error .notTruth
  | real (some n) => if n.natAbs < wordLimit then truthOfWhole n else .error .notTruth
  | text t => truthOfText t
  | brokenText _ => .error .notUnicode
  | bytes content =>
    match textOfBytes? content with
    | some t => truthOfText t
    | none => .error .unknownTruth
  | _ => .error .notTruth

/-- The text that a value is. Bytes count as the text that they are in UTF-8. -/
def toText : Value → Except IssueKind Text
  | text t => .ok t
  | brokenText _ => .error .notUnicode
  | bytes content =>
    match textOfBytes? content with
    | some t => .ok t
    | none => .error .notUnicode
  | _ => .error .notText

/-- The listed word that a value is, with what the word stands for. -/
def toListed {α : Type} (ofWord? : Text → Option α) (value : Value) : Except IssueKind α :=
  match value.toText.toOption.bind ofWord? with
  | some a => .ok a
  | none => .error .notListedWord

end Value

end Groundwork
