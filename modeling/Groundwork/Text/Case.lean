import Groundwork.Text.Basic
import Groundwork.Text.CaseTable

/-!
# Letter case

Upper and lower case for all scripts. A character may have several characters as its counterpart
(`ß` becomes `SS`), and the capital sigma becomes `ς` at the end of a word and `σ` elsewhere.
-/

namespace Groundwork.Text

/-- The counterpart of a code point by the first row that covers it. -/
def shifted (rows : List (Nat × Nat × Nat × Int)) (n : Nat) : Nat :=
  match rows.find? fun (first, last, step, _) =>
      first ≤ n && n ≤ last && (n - first) % step = 0 with
  | some (_, _, _, shift) => ((n : Int) + shift).toNat
  | none => n

/-- The counterpart of a character outside ASCII. -/
def wideCounterpart (expansions : List (Nat × List Nat)) (rows : List (Nat × Nat × Nat × Int))
    (c : Char) : Text :=
  match expansions.lookup c.toNat with
  | some codes => codes.map Char.ofNat
  | none => [Char.ofNat (shifted rows c.toNat)]

/-- A character in upper case. -/
def upperChar (c : Char) : Text :=
  if c.toNat < 128 then [c.toUpper] else wideCounterpart upperExpansions upperRows c

/-- A character on its own in lower case. -/
def lowerChar (c : Char) : Text :=
  if c.toNat < 128 then [c.toLower] else wideCounterpart lowerExpansions lowerRows c

/-- The character has letter case. -/
def isCased (c : Char) : Bool :=
  c.isAlpha || (128 ≤ c.toNat && inRanges wideCasedRanges c)

/-- The character does not count as a neighbour where letter case is decided. -/
def isCaseIgnorable (c : Char) : Bool := inRanges caseIgnorableRanges c

/-- The nearest character that counts as a neighbour has letter case. -/
def meetsCased (s : Text) : Bool :=
  match s.find? fun c => !isCaseIgnorable c with
  | some c => isCased c
  | none => false

/-- Lower case of a text that stands after `before`, given in reverse. -/
def lowerAfter (before : Text) : Text → Text
  | [] => []
  | c :: s =>
    let here :=
      if c = 'Σ' then (if meetsCased before && !meetsCased s then ['ς'] else ['σ'])
      else lowerChar c
    here ++ lowerAfter (c :: before) s

/-- A text in lower case. -/
def lower (s : Text) : Text := lowerAfter [] s

/-- A text with its first character in upper case. -/
def capitalise : Text → Text
  | [] => []
  | c :: s => upperChar c ++ s

/-- A text with its first character in lower case. -/
def uncapitalise : Text → Text
  | [] => []
  | c :: s => lowerChar c ++ s

end Groundwork.Text
