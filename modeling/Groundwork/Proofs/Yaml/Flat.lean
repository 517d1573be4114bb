import Groundwork.Yaml.Document
import Groundwork.Yaml.Printer
import Mathlib.Tactic.Common

/-!
# Flat mappings

A block mapping with scalars as keys and as values. Its tokens are read as its entries, one after
the other (`parse_of_tokens`).
-/

namespace Groundwork.Yaml

/-- An entry whose key is a plain scalar and whose value is a scalar, with what they stand for. -/
structure FlatEntry where
  key : Text
  text : Text
  /-- The value stands without quotes. -/
  plain : Bool
  value : Value
  key_reads : kindOf key = .text
  value_reads : scalarValue {} text plain = .ok value

namespace FlatEntry

def tokens (e : FlatEntry) : List Token :=
  [.key, .scalar e.key true, .value, .scalar e.text e.plain]

def nodes (e : FlatEntry) : Node × Node := (.scalar {} e.key true, .scalar {} e.text e.plain)

def values (e : FlatEntry) : Value × Value := (.text e.key, e.value)

/-- The entry whose value is a text, in the form in which it is written. -/
def ofText (key : Text) (key_reads : kindOf key = .text) (text : Text) : FlatEntry where
  key
  text
  plain := isPlain text
  value := .text text
  key_reads
  value_reads := by
    unfold scalarValue
    split
    · next plain =>
      simp only [isPlain, Bool.and_eq_true, decide_eq_true_eq] at plain
      unfold valueOf
      rw [plain.1.1.1.1.1]
    · rfl

/-- The entry whose value is a truth value. -/
def ofTruth (key : Text) (key_reads : kindOf key = .text) (b : Bool) : FlatEntry where
  key
  text := if b then "true" else "false"
  plain := true
  value := .truth b
  key_reads
  value_reads := by cases b <;> rfl

end FlatEntry

/-- The tokens of a flat mapping that is all of a document. -/
def flatTokens (es : List FlatEntry) : List Token :=
  .blockMappingStart :: (es.flatMap FlatEntry.tokens ++ [.blockEnd, .streamEnd])

variable {handles : Handles} {es : List FlatEntry} {rest : List Token}

/-! ## Nodes -/

theorem nodeUnless?_key (fuel : Nat) (key : Text) (rest : List Token) :
    nodeUnless? handles true true [.key, .value, .blockEnd] (fuel + 2) (.scalar key true :: rest)
      = some (.scalar {} key true, rest) := rfl

theorem valueAfter?_scalar (fuel : Nat) (text : Text) (plain : Bool) (rest : List Token) :
    valueAfter? handles true [.key, .value, .blockEnd] (fuel + 3)
        (.value :: .scalar text plain :: rest)
      = some (.scalar {} text plain, rest) := by
  simp [valueAfter?, nodeUnless?, node?, startsWith, marks?]

/-- Every entry takes one round, of which a value takes three more. -/
theorem blockEntries?_flat {fuel : Nat} (enough : es.length + 4 ≤ fuel) :
    blockEntries? handles fuel (es.flatMap FlatEntry.tokens ++ .blockEnd :: rest)
      = some (es.map FlatEntry.nodes, rest) := by
  induction es generalizing fuel with
  | nil =>
    obtain ⟨less, rfl⟩ : ∃ less, fuel = less + 1 := ⟨fuel - 1, by omega⟩
    rfl
  | cons e es ih =>
    rw [List.length_cons] at enough
    obtain ⟨less, rfl⟩ : ∃ less, fuel = less + 4 := ⟨fuel - 4, by omega⟩
    have fewer : es.length + 4 ≤ less + 3 := by omega
    rw [List.flatMap_cons, List.append_assoc, FlatEntry.tokens]
    simp only [List.cons_append, List.nil_append]
    rw [blockEntries?, nodeUnless?_key]
    simp only [bind, Option.bind, valueAfter?_scalar, ih fewer]
    rfl

theorem length_flatTokens (es : List FlatEntry) : (flatTokens es).length = 4 * es.length + 3 := by
  have entries : (es.flatMap FlatEntry.tokens).length = 4 * es.length := by
    induction es with
    | nil => rfl
    | cons e es ih =>
      rw [List.flatMap_cons, List.length_append, ih, List.length_cons]
      change 4 + 4 * es.length = _
      omega
  unfold flatTokens
  rw [List.length_cons, List.length_append, entries]
  rfl

theorem node?_flatTokens {fuel : Nat} (enough : es.length + 4 ≤ fuel) :
    node? handles true false (fuel + 1) (flatTokens es)
      = some (.mapping {} (es.map FlatEntry.nodes), [.streamEnd]) := by
  have noReference (name : Text) (rest : List Token) :
      flatTokens es ≠ .reference name :: rest := by
    intro same
    cases same
  rw [node?.eq_3 _ _ _ _ _ noReference]
  simp only [flatTokens, marks?, bind, Option.bind]
  rw [blockEntries?_flat enough]
  rfl

theorem document?_flatTokens (es : List FlatEntry) :
    document? (flatTokens es) = some (some (.mapping {} (es.map FlatEntry.nodes))) := by
  have whole : document? (flatTokens es)
      = (node? standardHandles true false (3 * (flatTokens es).length + 3) (flatTokens es)).bind
          fun found => if endsStream found.2 then some (some found.1) else none := rfl
  rw [whole, length_flatTokens, node?_flatTokens (by omega)]
  rfl

/-! ## Values -/

theorem exceedsNesting_entries (depth : Nat) (es : List FlatEntry) (rest : List Token) :
    exceedsNesting depth (es.flatMap FlatEntry.tokens ++ rest) = exceedsNesting depth rest := by
  induction es with
  | nil => rfl
  | cons e es ih =>
    rw [List.flatMap_cons, List.append_assoc, FlatEntry.tokens]
    simpa [exceedsNesting, opensCollection, closesCollection] using ih

/-- The tokens open one collection only. -/
theorem exceedsNesting_flatTokens (es : List FlatEntry) :
    exceedsNesting nestingLimit (flatTokens es) = false := by
  change exceedsNesting 484 (es.flatMap FlatEntry.tokens ++ [.blockEnd, .streamEnd]) = false
  rw [exceedsNesting_entries]
  rfl

/-- An evaluation goes on from what its first step yields. -/
theorem bind_eq_of_ok {α β : Type} {first : Evaluation α} {anchors later : Anchors} {a : α}
    (yields : first anchors = .ok (a, later)) (next : α → Evaluation β) :
    (first >>= next) anchors = next a later := by
  change Except.bind (first anchors) _ = _
  rw [yields]
  rfl

/-- A scalar without marks has the value that its text stands for. -/
theorem nodeValue_scalar {text : Text} {plain : Bool} {value : Value} (anchors : Anchors)
    (reads : scalarValue {} text plain = .ok value) :
    nodeValue (.scalar {} text plain) anchors = .ok (value, anchors) := by
  unfold nodeValue
  rw [reads]
  rfl

/-- The entries are read one after the other. -/
theorem entryValues_flat (anchors : Anchors) (es : List FlatEntry) :
    entryValues (es.map FlatEntry.nodes) anchors
      = .ok (([], es.map FlatEntry.values), anchors) := by
  induction es with
  | nil => rfl
  | cons e es ih =>
    have reads : scalarValue {} e.key true = .ok (.text e.key) := by
      simp [scalarValue, valueOf, e.key_reads]
    have noMerge : isMerge (.scalar {} e.key true) = false := by
      simp [isMerge, e.key_reads]
    have noDefault : keyText? (.scalar {} e.key true) = none := by
      simp [keyText?, e.key_reads]
    rw [List.map_cons, FlatEntry.nodes, entryValues, noMerge, noDefault]
    simp only [Bool.false_eq_true, if_false]
    rw [bind_eq_of_ok (nodeValue_scalar anchors reads)]
    simp only [isKey, Bool.not_true, Bool.false_eq_true, if_false]
    rw [bind_eq_of_ok (nodeValue_scalar anchors e.value_reads), bind_eq_of_ok ih]
    rfl

/-- A text that is cut into the tokens of a flat mapping is read as this mapping. -/
theorem parse_of_tokens {s : Text} (cut : tokens s = .ok (flatTokens es)) :
    parse s = .ok (.mapping (es.map FlatEntry.values)) := by
  have read : nodeValue (.mapping {} (es.map FlatEntry.nodes)) []
      = .ok (.mapping (es.map FlatEntry.values), []) := by
    rw [nodeValue]
    simp only [isTagged, Bool.not_true, Bool.false_eq_true, if_false]
    rw [bind_eq_of_ok (entryValues_flat [] es)]
    rfl
  unfold parse
  simp only [cut, bind, Except.bind, exceedsNesting_flatTokens, document?_flatTokens, orMalformed,
    read, StateT.run]
  rfl

end Groundwork.Yaml
