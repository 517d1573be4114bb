import Groundwork.Text.Basic

/-!
# Base 64

Bytes written as a text: four characters hold six bits each of three bytes. Characters outside the
alphabet count for nothing, so that the text may be broken into lines; the last group is filled up
with the sign `=`.
-/

namespace Groundwork.Base64

/-- The sign that fills up the last group. -/
def filler : Char := '='

/-- The six bits that a character stands for. -/
def bits? (c : Char) : Option Nat :=
  if c.isUpper then some (c.toNat - 'A'.toNat)
  else if c.isLower then some (c.toNat - 'a'.toNat + 26)
  else if c.isDigit then some (c.toNat - '0'.toNat + 52)
  else if c = '+' then some 62
  else if c = '/' then some 63
  else none

/-- The bytes of the rest of a text. Before it stand `place` characters of a group, whose bits
    that belong to no byte yet are `left`, and after these `fillers` signs. A group that is filled
    up ends the text; no other group may be left open. -/
def bytesFrom? (place left fillers : Nat) : Text → Option (List UInt8)
  | [] => if place = 0 then some [] else none
  | c :: s =>
    if c = filler then
      if 2 ≤ place && 4 ≤ place + fillers + 1 then some []
      else bytesFrom? place left (if 2 ≤ place then fillers + 1 else fillers) s
    else match bits? c with
      | none => bytesFrom? place left fillers s
      | some bits =>
        let sum := left * 64 + bits
        match place with
        | 0 => bytesFrom? 1 bits 0 s
        | 1 => (bytesFrom? 2 (sum % 16) 0 s).map (UInt8.ofNat (sum / 16) :: ·)
        | 2 => (bytesFrom? 3 (sum % 4) 0 s).map (UInt8.ofNat (sum / 4) :: ·)
        | _ => (bytesFrom? 0 0 0 s).map (UInt8.ofNat sum :: ·)

/-- The bytes that a text of ASCII stands for. -/
def decode? (s : Text) : Option (List UInt8) :=
  if s.all fun c => c.toNat < 128 then bytesFrom? 0 0 0 s else none

end Groundwork.Base64
