/-!
# Text

All text of the library is a list of characters. A scanner takes such a list and returns what it
recognised together with the list that is left, so no positions are needed to say what it did.

Main operations: `after?` recognises a literal, `search` cuts at the first place where a
recogniser succeeds, `split` and `List.intercalate` take text apart at a character and put it
together again.
-/

namespace Groundwork

/-- Text is the list of its characters. -/
abbrev Text := List Char

instance : Coe String Text := ⟨String.toList⟩

namespace Text

/-- Source text with its braces written as `⟦` and `⟧`. -/
def code (source : String) : Text :=
  source.toList.map fun c => if c = '⟦' then '\x7b' else if c = '⟧' then '\x7d' else c

/-- What follows `lit`, if the text begins with it. -/
def after? : (lit s : Text) → Option Text
  | [], s => some s
  | _ :: _, [] => none
  | c :: lit, d :: s => if c = d then after? lit s else none

/-- What precedes `lit`, if the text ends with it. -/
def before? (lit s : Text) : Option Text :=
  (after? lit.reverse s.reverse).map List.reverse

/-- The text less `lit` at its end, if it ends so. -/
def dropEnding (lit s : Text) : Text :=
  (before? lit s).getD s

/-- The text ends with `lit`. -/
def endsWith (lit s : Text) : Bool :=
  (before? lit s).isSome

/-- The text less the character `c` at its front, if it begins so. -/
def dropOne (c : Char) : Text → Text
  | [] => []
  | d :: s => if d = c then s else d :: s

/-- The pieces between the occurrences of `sep`; one more than there are occurrences. -/
def split (sep : Char) : Text → List Text
  | [] => [[]]
  | c :: s =>
    if c = sep then [] :: split sep s
    else match split sep s with
      | [] => [[c]]
      | piece :: pieces => (c :: piece) :: pieces

/-- Cut at the first place where `recognise` succeeds, given the character before the place
    (none at the start) and the text from there on. -/
def search {α : Type} (recognise : Option Char → Text → Option α) (before : Option Char) :
    Text → Option (Text × α)
  | [] => (recognise before []).map fun found => ([], found)
  | c :: s =>
    match recognise before (c :: s) with
    | some found => some ([], found)
    | none => (search recognise (some c) s).map fun (front, found) => (c :: front, found)

/-- A place that begins a line. -/
def beginsLine : Option Char → Bool
  | none => true
  | some c => c = '\n'

/-- Lines, each ended by a line feed. -/
def lines (ls : List Text) : Text :=
  ls.flatMap fun l => l ++ ['\n']

/-- Every line ending, `\r\n` or `\r`, becomes a line feed. -/
def normaliseLineEnds : Text → Text
  | [] => []
  | '\r' :: '\n' :: s => '\n' :: normaliseLineEnds s
  | '\r' :: s => '\n' :: normaliseLineEnds s
  | c :: s => c :: normaliseLineEnds s

/-- Decimal digits of a number. -/
def ofNat (n : Nat) : Text := (toString n).toList

/-- Decimal digits of a number, after a minus sign if it is negative. -/
def ofInt (n : Int) : Text := (toString n).toList

/-- Ordered by code points, a text before its extensions. -/
def le (a b : Text) : Bool :=
  match a, b with
  | [], _ => true
  | _ :: _, [] => false
  | c :: a, d :: b => if c = d then le a b else c.val < d.val

end Text

/-- The character's code point lies in one of the closed ranges. -/
def inRanges (ranges : List (Nat × Nat)) (c : Char) : Bool :=
  ranges.any fun (first, last) => first ≤ c.toNat && c.toNat ≤ last

end Groundwork
