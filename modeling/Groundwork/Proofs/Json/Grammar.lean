import Groundwork.Json.Document
import Groundwork.Proofs.Except
import Mathlib.Data.List.Chain
import Mathlib.Tactic.Common

/-!
# The grammar of JSON documents

`Forms` is the grammar of JSON over tokens. Whatever the parser takes from a sequence of tokens is
formed by it, and the leaves of the value are the values of the tokens, in order (`takesParts`). The
grammar says what may stand next to what: no comma stands before a closing mark, and no two words
are neighbours (`Forms.chained`).
-/

namespace Groundwork

namespace Value

mutual

/-- The values within a value that have no parts, keys among them, in the order in which they are
    written. -/
def leaves : Value → List Value
  | .list items => leavesOfItems items
  | .mapping entries => leavesOfEntries entries
  | value => [value]

/-- The leaves of several values. -/
def leavesOfItems : List Value → List Value
  | [] => []
  | item :: items => item.leaves ++ leavesOfItems items

/-- The leaves of several entries. -/
def leavesOfEntries : List (Value × Value) → List Value
  | [] => []
  | (key, value) :: entries => key :: (value.leaves ++ leavesOfEntries entries)

end

end Value

namespace Json

namespace Token

/-- The value of a token that is a value by itself. -/
def value? : Token → Option Value
  | atom value => some value
  | text value => some value
  | _ => none

/-- The token has no value with parts. -/
def IsLeaf (token : Token) : Prop := ∀ value ∈ token.value?, value.leaves = [value]

/-- The token stands between two items. -/
def isComma : Token → Bool
  | comma => true
  | _ => false

/-- The token ends a list or a mapping. -/
def closes : Token → Bool
  | closeBracket => true
  | closeBrace => true
  | _ => false

/-- The token was a word. -/
def isWord : Token → Bool
  | atom _ => true
  | fault _ => true
  | _ => false

/-- One token may stand right before the other in a document. -/
def Precedes (token next : Token) : Prop :=
  (token.isComma = true → next.closes = false) ∧ (token.isWord = true → next.isWord = false)

end Token

variable {used rest tokens : List Token} {depth fuel : Nat} {value : Value}

/-! ## Tokens of a value -/

/-- A part of a document: a value, or what follows the opening mark of a list or a mapping that is
    not empty, up to its closing mark. -/
inductive Part where
  | value
  | items
  | entries

/-- The tokens form a part of a document. -/
inductive Forms : Part → List Token → Prop
  | atom (value : Value) : Forms .value [.atom value]
  | text (value : Value) : Forms .value [.text value]
  | noItems : Forms .value [.openBracket, .closeBracket]
  | list {items : List Token} (forms : Forms .items items) : Forms .value (.openBracket :: items)
  | noEntries : Forms .value [.openBrace, .closeBrace]
  | mapping {entries : List Token} (forms : Forms .entries entries) :
      Forms .value (.openBrace :: entries)
  | lastItem {item : List Token} (forms : Forms .value item) :
      Forms .items (item ++ [.closeBracket])
  | item {item items : List Token} (first : Forms .value item) (later : Forms .items items) :
      Forms .items (item ++ .comma :: items)
  | lastEntry (key : Value) {item : List Token} (forms : Forms .value item) :
      Forms .entries (.text key :: .colon :: (item ++ [.closeBrace]))
  | entry (key : Value) {item entries : List Token} (first : Forms .value item)
      (later : Forms .entries entries) :
      Forms .entries (.text key :: .colon :: (item ++ .comma :: entries))

/-- The values of the tokens that are values by themselves. -/
def valuesOf (tokens : List Token) : List Value :=
  tokens.flatMap fun token => token.value?.toList

@[simp] theorem valuesOf_append (tokens more : List Token) :
    valuesOf (tokens ++ more) = valuesOf tokens ++ valuesOf more :=
  List.flatMap_append

@[simp] theorem valuesOf_cons (token : Token) (tokens : List Token) :
    valuesOf (token :: tokens) = token.value?.toList ++ valuesOf tokens :=
  List.flatMap_cons

@[simp] theorem valuesOf_nil : valuesOf [] = [] := rfl

/-- The tokens form a part of a document, whose leaves are the values of the tokens if none of these
    has parts. -/
def Denotes (part : Part) (leaves : List Value) (used : List Token) : Prop :=
  Forms part used ∧ ((∀ token ∈ used, token.IsLeaf) → leaves = valuesOf used)

/-- Whatever is taken with this fuel is a part of a document at the front of the tokens. -/
structure TakesParts (fuel : Nat) : Prop where
  value {depth : Nat} {tokens rest : List Token} {value : Value}
    (taken : takeValue depth fuel tokens = .ok (value, rest)) :
    ∃ used, tokens = used ++ rest ∧ Denotes .value value.leaves used
  items {depth : Nat} {tokens rest : List Token} {items : List Value}
    (taken : takeItems depth fuel tokens = .ok (items, rest)) :
    ∃ used, tokens = used ++ rest ∧ Denotes .items (Value.leavesOfItems items) used
  entries {depth : Nat} {tokens rest : List Token} {entries : List (Value × Value)}
    (taken : takeEntries depth fuel tokens = .ok (entries, rest)) :
    ∃ used, tokens = used ++ rest ∧ Denotes .entries (Value.leavesOfEntries entries) used

theorem takeValue_spec (parts : TakesParts fuel)
    (taken : takeValue depth (fuel + 1) tokens = .ok (value, rest)) :
    ∃ used, tokens = used ++ rest ∧ Denotes .value value.leaves used := by
  unfold takeValue at taken
  split at taken
  · next v later =>
    obtain ⟨rfl, rfl⟩ := Prod.mk.inj (Except.ok.inj taken)
    exact ⟨[.atom v], rfl, .atom v, fun leaf => leaf _ List.mem_cons_self v rfl⟩
  · next v later =>
    obtain ⟨rfl, rfl⟩ := Prod.mk.inj (Except.ok.inj taken)
    exact ⟨[.text v], rfl, .text v, fun leaf => leaf _ List.mem_cons_self v rfl⟩
  · cases taken
  · next later =>
    split_ifs at taken
    split at taken
    · obtain ⟨rfl, rfl⟩ := Prod.mk.inj (Except.ok.inj taken)
      exact ⟨_, rfl, .noItems, fun _ => by
        simp [Value.leaves, Value.leavesOfItems, Token.value?]⟩
    · obtain ⟨⟨items, behind⟩, inside, same⟩ := bind_eq_ok_iff.1 taken
      obtain ⟨rfl, rfl⟩ := Prod.mk.inj (Except.ok.inj same)
      obtain ⟨used, rfl, forms, leaves⟩ := parts.items inside
      refine ⟨.openBracket :: used, rfl, .list forms, fun leaf => ?_⟩
      rw [Value.leaves, leaves fun token member => leaf token (List.mem_cons_of_mem _ member)]
      rfl
  · next later =>
    split_ifs at taken
    split at taken
    · obtain ⟨rfl, rfl⟩ := Prod.mk.inj (Except.ok.inj taken)
      exact ⟨_, rfl, .noEntries, fun _ => by
        simp [Value.leaves, Value.leavesOfEntries, Token.value?]⟩
    · obtain ⟨⟨entries, behind⟩, inside, same⟩ := bind_eq_ok_iff.1 taken
      obtain ⟨rfl, rfl⟩ := Prod.mk.inj (Except.ok.inj same)
      obtain ⟨used, rfl, forms, leaves⟩ := parts.entries inside
      refine ⟨.openBrace :: used, rfl, .mapping forms, fun leaf => ?_⟩
      rw [Value.leaves, leaves fun token member => leaf token (List.mem_cons_of_mem _ member)]
      rfl
  · cases taken

theorem takeItems_spec (parts : TakesParts fuel) {items : List Value}
    (taken : takeItems depth (fuel + 1) tokens = .ok (items, rest)) :
    ∃ used, tokens = used ++ rest ∧ Denotes .items (Value.leavesOfItems items) used := by
  unfold takeItems at taken
  obtain ⟨⟨item, behind⟩, first, after⟩ := bind_eq_ok_iff.1 taken
  obtain ⟨used, rfl, forms, leaves⟩ := parts.value first
  dsimp only at after
  split at after
  · obtain ⟨rfl, rfl⟩ := Prod.mk.inj (Except.ok.inj after)
    refine ⟨used ++ [.closeBracket], by simp, .lastItem forms, fun leaf => ?_⟩
    rw [Value.leavesOfItems, Value.leavesOfItems,
      leaves fun token member => leaf token (List.mem_append_left _ member)]
    simp [Token.value?]
  · obtain ⟨⟨items, behind⟩, later, same⟩ := bind_eq_ok_iff.1 after
    obtain ⟨rfl, rfl⟩ := Prod.mk.inj (Except.ok.inj same)
    obtain ⟨usedLater, rfl, formsLater, leavesLater⟩ := parts.items later
    refine ⟨used ++ .comma :: usedLater, by simp, .item forms formsLater, fun leaf => ?_⟩
    rw [Value.leavesOfItems, leaves fun token member => leaf token (List.mem_append_left _ member),
      leavesLater fun token member => leaf token (by simp [member])]
    simp [Token.value?]
  · cases after

theorem takeEntries_spec (parts : TakesParts fuel) {entries : List (Value × Value)}
    (taken : takeEntries depth (fuel + 1) tokens = .ok (entries, rest)) :
    ∃ used, tokens = used ++ rest ∧ Denotes .entries (Value.leavesOfEntries entries) used := by
  unfold takeEntries at taken
  split at taken
  · next key behindKey =>
    obtain ⟨⟨value, behind⟩, first, after⟩ := bind_eq_ok_iff.1 taken
    obtain ⟨used, rfl, forms, leaves⟩ := parts.value first
    dsimp only at after
    split at after
    · obtain ⟨rfl, rfl⟩ := Prod.mk.inj (Except.ok.inj after)
      refine ⟨.text key :: .colon :: (used ++ [.closeBrace]), by simp, .lastEntry key forms,
        fun leaf => ?_⟩
      rw [Value.leavesOfEntries, Value.leavesOfEntries,
        leaves fun token member => leaf token (by simp [member])]
      simp [Token.value?]
    · obtain ⟨⟨entries, behind⟩, later, same⟩ := bind_eq_ok_iff.1 after
      obtain ⟨rfl, rfl⟩ := Prod.mk.inj (Except.ok.inj same)
      obtain ⟨usedLater, rfl, formsLater, leavesLater⟩ := parts.entries later
      refine ⟨.text key :: .colon :: (used ++ .comma :: usedLater), by simp,
        .entry key forms formsLater, fun leaf => ?_⟩
      rw [Value.leavesOfEntries, leaves fun token member => leaf token (by simp [member]),
        leavesLater fun token member => leaf token (by simp [member])]
      simp [Token.value?]
    · cases after
  · cases taken

theorem takesParts (fuel : Nat) : TakesParts fuel := by
  induction fuel with
  | zero =>
    constructor
    · intro depth tokens rest value taken
      rw [takeValue] at taken
      cases taken
    · intro depth tokens rest items taken
      rw [takeItems] at taken
      cases taken
    · intro depth tokens rest entries taken
      rw [takeEntries] at taken
      cases taken
  | succ fuel ih => exact ⟨takeValue_spec ih, takeItems_spec ih, takeEntries_spec ih⟩

/-! ## Neighbours in a document -/

/-- The tokens may stand next to each other as they do, and no fault is among them. -/
structure Chained (used : List Token) : Prop where
  chain : used.IsChain Token.Precedes
  opens : ∃ first later, used = first :: later ∧ first.closes = false
  ends : ∀ token ∈ used.getLast?, token.isComma = false
  noFault : ∀ fault, Token.fault fault ∉ used

namespace Chained

theorem single {token : Token} (noComma : token.isComma = false) (closes : token.closes = false)
    (noFault : ∀ fault, token ≠ .fault fault) : Chained [token] where
  chain := List.isChain_singleton token
  opens := ⟨token, [], rfl, closes⟩
  ends := by simpa using noComma
  noFault := fun fault member => noFault fault (List.mem_singleton.1 member).symm

/-- What is neither a comma nor a word may stand before anything. -/
theorem cons {mark : Token} (noComma : mark.isComma = false) (noWord : mark.isWord = false)
    (closes : mark.closes = false) (chained : Chained used) : Chained (mark :: used) := by
  obtain ⟨first, later, rfl, -⟩ := chained.opens
  refine ⟨List.isChain_cons.2 ⟨fun next _ => ?_, chained.chain⟩, ⟨mark, _, rfl, closes⟩,
    by simpa using chained.ends, fun fault member => ?_⟩
  · constructor
    · exact fun comma => by simp [noComma] at comma
    · exact fun word => by simp [noWord] at word
  · rcases List.mem_cons.1 member with rfl | member
    · cases noWord
    · exact chained.noFault fault member

/-- What is no word may stand behind a part of a document. -/
theorem append {mark : Token} {later : List Token} (front : Chained used)
    (noWord : mark.isWord = false) (chain : (mark :: later).IsChain Token.Precedes)
    (ends : ∀ token ∈ (mark :: later).getLast?, token.isComma = false)
    (noFault : ∀ fault, Token.fault fault ∉ later) : Chained (used ++ mark :: later) := by
  obtain ⟨first, more, same, closes⟩ := front.opens
  refine ⟨List.isChain_append.2 ⟨front.chain, chain, fun last isLast next isNext => ?_⟩,
    ⟨first, more ++ mark :: later, by rw [same]; rfl, closes⟩, by simpa using ends,
    fun fault member => ?_⟩
  · obtain rfl := Option.some.inj isNext
    constructor
    · exact fun comma => by simp [front.ends last isLast] at comma
    · exact fun _ => noWord
  · rcases List.mem_append.1 member with member | member
    · exact front.noFault fault member
    rcases List.mem_cons.1 member with rfl | member
    · cases noWord
    · exact noFault fault member

/-- A part ends in a closing mark. -/
theorem close {mark : Token} (front : Chained used) (closes : mark.closes = true) :
    Chained (used ++ [mark]) := by
  cases mark with
  | closeBracket | closeBrace =>
    exact front.append rfl (List.isChain_singleton _) (by simp [Token.isComma]) (by simp)
  | _ => cases closes

/-- A comma stands between two parts. -/
theorem comma {later : List Token} (front : Chained used) (behind : Chained later) :
    Chained (used ++ .comma :: later) := by
  obtain ⟨first, more, rfl, closes⟩ := behind.opens
  refine front.append rfl (List.isChain_cons.2 ⟨?_, behind.chain⟩) (by simpa using behind.ends)
    behind.noFault
  rintro next ⟨⟩
  exact ⟨fun _ => closes, fun word => by cases word⟩

end Chained

theorem Forms.chained {part : Part} (forms : Forms part used) : Chained used := by
  induction forms with
  | atom | text => exact .single rfl rfl nofun
  | noItems =>
    have front : Chained [.openBracket] := .single rfl rfl nofun
    exact front.close rfl
  | noEntries =>
    have front : Chained [.openBrace] := .single rfl rfl nofun
    exact front.close rfl
  | list _ ih | mapping _ ih => exact ih.cons rfl rfl rfl
  | lastItem _ ih => exact ih.close rfl
  | item _ _ first later => exact first.comma later
  | lastEntry key _ ih => exact ((ih.close rfl).cons rfl rfl rfl).cons rfl rfl rfl
  | entry key _ _ first later => exact ((first.comma later).cons rfl rfl rfl).cons rfl rfl rfl

end Json

end Groundwork
