import Groundwork.Json.Token

/-!
# JSON documents

The value that a sequence of tokens denotes, if it is one value of JSON; otherwise the first fault.
-/

namespace Groundwork.Json

/-- The most lists and mappings that may stand within each other. -/
def nestingLimit : Nat := 985

mutual

/-- A value at the front of the tokens, and the tokens after it. At most `depth` lists and mappings
    may be opened within each other. Each call takes at least one token, so `fuel` tokens need no
    more than `fuel` calls within each other. -/
def takeValue (depth : Nat) : (fuel : Nat) → List Token → Except Fault (Value × List Token)
  | 0, _ => .error .malformed
  | fuel + 1, tokens =>
    match tokens with
    | .atom value :: rest => .ok (value, rest)
    | .text value :: rest => .ok (value, rest)
    | .fault fault :: _ => .error fault
    | .openBracket :: rest =>
      if depth = 0 then .error (.tooDeep true)
      else match rest with
        | .closeBracket :: rest => .ok (.list [], rest)
        | _ => do
          let (items, rest) ← takeItems (depth - 1) fuel rest
          return (.list items, rest)
    | .openBrace :: rest =>
      if depth = 0 then .error (.tooDeep false)
      else match rest with
        | .closeBrace :: rest => .ok (.mapping [], rest)
        | _ => do
          let (entries, rest) ← takeEntries (depth - 1) fuel rest
          return (.mapping entries, rest)
    | _ => .error .malformed

/-- The items of a list, up to its closing bracket; at least one. -/
def takeItems (depth : Nat) : (fuel : Nat) → List Token → Except Fault (List Value × List Token)
  | 0, _ => .error .malformed
  | fuel + 1, tokens => do
    let (item, rest) ← takeValue depth fuel tokens
    match rest with
    | .closeBracket :: rest => return ([item], rest)
    | .comma :: rest =>
      let (items, rest) ← takeItems depth fuel rest
      return (item :: items, rest)
    | _ => throw .malformed

/-- The entries of a mapping, up to its closing brace; at least one. -/
def takeEntries (depth : Nat) :
    (fuel : Nat) → List Token → Except Fault (List (Value × Value) × List Token)
  | 0, _ => .error .malformed
  | fuel + 1, tokens =>
    match tokens with
    | .text key :: .colon :: rest => do
      let (value, rest) ← takeValue depth fuel rest
      match rest with
      | .closeBrace :: rest => return ([(key, value)], rest)
      | .comma :: rest =>
        let (entries, rest) ← takeEntries depth fuel rest
        return ((key, value) :: entries, rest)
      | _ => throw .malformed
    | _ => .error .malformed

end

/-- The value that tokens denote. -/
def ofTokens (tokens : List Token) : Except Fault Value := do
  match ← takeValue nestingLimit (2 * tokens.length + 1) tokens with
  | (value, []) => return value
  | _ => throw .malformed

/-- The value that a text denotes. -/
def parse (s : Text) : Except Fault Value := ofTokens (tokens s)

end Groundwork.Json
