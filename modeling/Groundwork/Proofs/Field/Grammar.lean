import Groundwork.Proofs.Field.Checked

/-!
# The grammar of tokens

A token of the grammar has a name, perhaps a type, and then what the type asks for:

    name[?]
    name[?]:[type[?]][:unique]
    name[?]:unique[?]
    name[?]:enum[?]:values[:unique]
    name[?]:references[?]:target[:unique]

The parser takes the parts that it looks for and passes over the others, so it accepts more. The
token without the parts that are passed over, `tidied`, is read as the same field, and a token that
is read is one of the grammar exactly if it is tidy and no line feed ends its name
(`accepted_grammatical_iff`).
-/

namespace Groundwork

namespace Token

variable {token part word : Text} {rest : List Text} {t : Token} {f : Field}

/-! ## Tokens of the grammar -/

/-- A small letter with letters and digits after it. -/
def IsColumnName (s : Text) : Prop :=
  ∃ c t, s = c :: t ∧ c.isLower = true ∧ ∀ d ∈ t, d.isAlphanum = true

/-- The part is the word, perhaps with a question mark after it. -/
def Marked (word part : Text) : Prop := part = word ∨ part = word ++ ['?']

/-- The ends of a token: nothing, or the modifier `unique`. -/
def modifierLists : List (List Text) := [[], ["unique".toList]]

/-- The parts of a token after its name. -/
inductive IsTyping : List Text → Prop
  | none : IsTyping []
  | default {rest : List Text} (modifier : rest ∈ modifierLists) : IsTyping ([] :: rest)
  | plain {word part : Text} {rest : List Text} (listed : word ∈ FieldKind.plainWords)
    (marked : Marked word part) (modifier : rest ∈ modifierLists) : IsTyping (part :: rest)
  | shorthand {part : Text} (marked : Marked "unique".toList part) : IsTyping [part]
  | argued {word part argument : Text} {rest : List Text} (listed : word ∈ argumentWords)
    (marked : Marked word part) (single : ':' ∉ argument) (modifier : rest ∈ modifierLists) :
    IsTyping (part :: argument :: rest)

/-- The token is one of the grammar. -/
def Grammatical (token : Text) : Prop :=
  ∃ name part rest, IsColumnName name ∧ Marked name part ∧ IsTyping rest ∧
    token = List.intercalate [':'] (part :: rest)

/-! ## Marked words -/

theorem marked_dropEnding (part : Text) : Marked (Text.dropEnding ['?'] part) part :=
  Text.eq_dropEnding ['?'] part

/-- The question mark is taken off the word that it marks. -/
theorem Marked.dropEnding (marked : Marked word part) (plain : word.getLast? ≠ some '?') :
    Text.dropEnding ['?'] part = word := by
  rcases marked with rfl | rfl
  · exact Text.dropEnding_of_getLast?_ne plain
  · exact Text.dropEnding_append _ word

theorem Marked.not_mem (marked : Marked word part) {c : Char} (absent : c ∉ word)
    (other : c ≠ '?') : c ∉ part := by
  rcases marked with rfl | rfl
  · exact absent
  · simp [absent, other]

theorem IsColumnName.not_mem {c : Char} {name : Text} (named : IsColumnName name)
    (other : c.isAlphanum = false) : c ∉ name := by
  obtain ⟨d, t, rfl, small, letters⟩ := named
  rw [List.mem_cons, not_or]
  constructor
  · rintro rfl
    simp [Char.isAlphanum, Char.isAlpha, small] at other
  · intro member
    rw [letters c member] at other
    cases other

theorem IsColumnName.getLast?_ne {name : Text} (named : IsColumnName name) :
    name.getLast? ≠ some '?' :=
  fun last => named.not_mem (by decide) (List.mem_of_getLast? last)

/-- A column's name is an identifier that no line feed ends. -/
theorem isColumnName_iff {name : Text} :
    IsColumnName name ↔ isIdentifier Char.isLower name = true ∧ '\n' ∉ name := by
  constructor
  · intro named
    have line : '\n' ∉ name := named.not_mem (by decide)
    obtain ⟨c, t, rfl, small, letters⟩ := named
    have letter : c.isAlpha = true := by simp [Char.isAlpha, small]
    exact ⟨isIdentifier_iff.2 ⟨c, t, .inl rfl, letter, small, letters⟩, line⟩
  · rintro ⟨identifier, line⟩
    obtain ⟨c, t, same, -, small, letters⟩ := letters_of_isIdentifier line identifier
    exact ⟨c, t, same, small, letters⟩

/-! ## Parts of a token of the grammar -/

theorem not_mem_of_mem_modifierLists (modifier : rest ∈ modifierLists) :
    ∀ piece ∈ rest, ':' ∉ piece := by
  revert rest
  decide

/-- The words for types have no colon, are not empty and do not end in a question mark. -/
theorem of_mem_typeWords (listed : word ∈ typeWords) :
    ':' ∉ word ∧ word ≠ [] ∧ word.getLast? ≠ some '?' := by
  revert word
  decide

theorem mem_typeWords_of_mem_plainWords (listed : word ∈ FieldKind.plainWords) :
    word ∈ typeWords :=
  mem_typeWords_iff.2 (.inr (.inr listed))

theorem mem_typeWords_of_mem_argumentWords (listed : word ∈ argumentWords) : word ∈ typeWords :=
  mem_typeWords_iff.2 (.inl listed)

theorem IsTyping.not_mem (typing : IsTyping rest) : ∀ piece ∈ rest, ':' ∉ piece := by
  have first {word part : Text} (listed : word ∈ typeWords) (marked : Marked word part) :
      ':' ∉ part :=
    marked.not_mem (of_mem_typeWords listed).1 (by decide)
  cases typing with
  | none => simp
  | default modifier =>
    exact List.forall_mem_cons.2 ⟨by simp, not_mem_of_mem_modifierLists modifier⟩
  | plain listed marked modifier =>
    exact List.forall_mem_cons.2 ⟨first (mem_typeWords_of_mem_plainWords listed) marked,
      not_mem_of_mem_modifierLists modifier⟩
  | shorthand marked =>
    exact List.forall_mem_cons.2 ⟨first (by decide) marked, by simp⟩
  | argued listed marked single modifier =>
    exact List.forall_mem_cons.2 ⟨first (mem_typeWords_of_mem_argumentWords listed) marked,
      List.forall_mem_cons.2 ⟨single, not_mem_of_mem_modifierLists modifier⟩⟩

/-- Whether a token is of the grammar is told by its parts. -/
theorem grammatical_iff_parts : Grammatical token ↔ ∃ name part rest, IsColumnName name ∧
    Marked name part ∧ IsTyping rest ∧ parts token = part :: rest := by
  constructor
  · rintro ⟨name, part, rest, named, marked, typing, rfl⟩
    refine ⟨name, part, rest, named, marked, typing, ?_⟩
    refine Text.split_intercalate (List.cons_ne_nil _ _) (List.forall_mem_cons.2 ⟨?_, ?_⟩)
    · exact marked.not_mem (named.not_mem (by decide)) (by decide)
    · exact typing.not_mem
  · rintro ⟨name, part, rest, named, marked, typing, cut⟩
    refine ⟨name, part, rest, named, marked, typing, ?_⟩
    rw [← cut]
    exact (Text.intercalate_split ':' token).symm

/-! ## Tidy tokens -/

/-- The modifier `unique`, if it is one of the parts. -/
def uniqueAmong (modifiers : List Text) : List Text :=
  if modifiers.contains "unique".toList then ["unique"] else []

/-- The parts after the type that the parser looks for. -/
def needed (t : Token) : List Text :=
  if t.typeWord = "unique".toList then []
  else if argumentWords.contains t.typeWord then t.argument :: uniqueAmong (t.modifiers.drop 1)
  else uniqueAmong t.modifiers

/-- The token without the parts that the parser passes over. -/
def tidied (token : Text) : Text :=
  List.intercalate [':'] ((parts token).take 2 ++ (ofText token).needed)

theorem uniqueAmong_mem_modifierLists (modifiers : List Text) :
    uniqueAmong modifiers ∈ modifierLists := by
  unfold uniqueAmong
  split <;> decide

theorem uniqueAmong_of_mem (modifier : rest ∈ modifierLists) : uniqueAmong rest = rest := by
  revert rest
  decide

theorem contains_uniqueAmong (modifiers : List Text) :
    (uniqueAmong modifiers).contains "unique".toList = modifiers.contains "unique".toList := by
  unfold uniqueAmong
  split
  · next found =>
    rw [found]
    decide
  · next none =>
    rw [Bool.not_eq_true] at none
    rw [none]
    rfl

theorem needed_of_unique (type : t.typeWord = "unique".toList) : t.needed = [] :=
  if_pos type

theorem needed_of_argument (listed : t.typeWord ∈ argumentWords) :
    t.needed = t.argument :: uniqueAmong (t.modifiers.drop 1) := by
  have others : ∀ word ∈ argumentWords, word ≠ "unique".toList := by decide
  unfold needed
  rw [if_neg (others _ listed), if_pos (List.contains_iff_mem.2 listed)]

theorem needed_of_plain (listed : t.typeWord ∈ FieldKind.plainWords) :
    t.needed = uniqueAmong t.modifiers := by
  have others : ∀ word ∈ FieldKind.plainWords,
      word ≠ "unique".toList ∧ ¬ argumentWords.contains word = true := by decide
  unfold needed
  rw [if_neg (others _ listed).1, if_neg (others _ listed).2]

theorem not_mem_of_mem_needed : ∀ piece ∈ (ofText token).needed, ':' ∉ piece := by
  have unique (modifiers : List Text) : ∀ piece ∈ uniqueAmong modifiers, ':' ∉ piece :=
    not_mem_of_mem_modifierLists (uniqueAmong_mem_modifierLists modifiers)
  unfold needed
  split_ifs
  · simp
  · exact List.forall_mem_cons.2 ⟨not_mem_argument token, unique _⟩
  · exact unique _

theorem parts_tidied (token : Text) :
    parts (tidied token) = (parts token).take 2 ++ (ofText token).needed := by
  refine Text.split_intercalate ?_ (List.forall_mem_append.2 ⟨fun piece member => ?_, ?_⟩)
  · have nonempty := Text.split_ne_nil ':' token
    simp [nonempty]
  · exact Text.not_mem_of_mem_split (List.mem_of_mem_take member)
  · exact not_mem_of_mem_needed

theorem take_parts_append (token : Text) :
    (parts token).take 2 ++ (ofText token).modifiers = parts token := by
  rcases ofText_cases token with ⟨name, cut, same⟩ | ⟨name, type, modifiers, cut, same⟩ <;>
    rw [cut, same] <;> rfl

/-- A token is tidy exactly if the parser looks for every part. -/
theorem tidied_eq_iff :
    tidied token = token ↔ (ofText token).needed = (ofText token).modifiers := by
  constructor
  · intro tidy
    have cut := parts_tidied token
    rw [tidy] at cut
    exact List.append_cancel_left (cut.symm.trans (take_parts_append token).symm)
  · intro same
    unfold tidied
    rw [same, take_parts_append]
    exact Text.intercalate_split ':' token

theorem ofText_tidied (token : Text) :
    ofText (tidied token) = { ofText token with modifiers := (ofText token).needed } := by
  rcases ofText_cases token with ⟨name, cut, same⟩ | ⟨name, type, modifiers, cut, same⟩
  · have cutTidied : parts (tidied token) = [name] := by
      rw [parts_tidied, cut, same]
      rfl
    rw [same]
    exact ofText_of_bare cutTidied
  · have cutTidied : parts (tidied token) = name :: type :: (ofText token).needed := by
      rw [parts_tidied, cut]
      rfl
    rw [ofText_of_typed cutTidied, same]

/-- The parts that are passed over make no difference to the field. -/
theorem Reads.tidy (reads : t.Reads f) : ({ t with modifiers := t.needed } : Token).Reads f := by
  cases reads with
  | shorthand type => exact .shorthand type
  | enum type given other =>
    rw [needed_of_argument (mem_argumentWords_iff.2 (.inl type)),
      ← contains_uniqueAmong (t.modifiers.drop 1)]
    exact .enum type given other
  | references type given other =>
    rw [needed_of_argument (mem_argumentWords_iff.2 (.inr type)),
      ← contains_uniqueAmong (t.modifiers.drop 1)]
    exact .references type given other
  | plain kind isPlain type =>
    have listed : t.typeWord ∈ FieldKind.plainWords :=
      FieldKind.mem_plainWords_iff.2 ⟨kind, isPlain, type.symm⟩
    rw [needed_of_plain listed, ← contains_uniqueAmong t.modifiers]
    exact .plain kind isPlain type

/-- A token that is read is read as the same field without the parts that are passed over. -/
theorem ofToken_tidied (read : Field.ofToken token = .ok f) :
    Field.ofToken (tidied token) = .ok f := by
  obtain ⟨named, reads⟩ := Field.ofToken_eq_ok_iff.1 read
  rw [Field.ofToken_eq_ok_iff, ofText_tidied]
  exact ⟨checkName_eq_ok_iff.2 (checkName_eq_ok_iff.1 named), reads.tidy⟩

/-! ## What the grammar leaves out -/

theorem name_of_parts (cut : parts token = part :: rest) :
    (ofText token).name = Text.dropEnding ['?'] part := by
  rcases ofText_cases token with ⟨name, own, same⟩ | ⟨name, type, modifiers, own, same⟩ <;>
    rw [cut] at own <;> rw [same, (List.cons.inj own).1] <;> rfl

theorem typeWord_of_marked {type : Text} (cut : parts token = part :: type :: rest)
    (marked : Marked word type) (listed : word ∈ typeWords) : (ofText token).typeWord = word := by
  obtain ⟨-, nonempty, plain⟩ := of_mem_typeWords listed
  have given : ¬ type.isEmpty = true := by
    rcases marked with rfl | rfl <;> simp [nonempty]
  rw [ofText_of_typed cut, if_neg given]
  exact marked.dropEnding plain

theorem typeWord_of_empty (cut : parts token = part :: [] :: rest) :
    (ofText token).typeWord = "string".toList := by
  have string : Text.dropEnding ['?'] "string".toList = "string".toList := by decide
  rw [ofText_of_typed cut]
  exact string

theorem modifiers_of_parts {type : Text} (cut : parts token = part :: type :: rest) :
    (ofText token).modifiers = rest := by
  rw [ofText_of_typed cut]

/-- A token whose parts are of the grammar has a type, and the parser looks for all its parts. -/
theorem IsTyping.tidy (typing : IsTyping rest) (cut : parts token = part :: rest) :
    (ofText token).typeWord ∈ typeWords ∧
      (ofText token).needed = (ofText token).modifiers := by
  have string : "string".toList ∈ FieldKind.plainWords := by decide
  cases typing with
  | none =>
    rw [ofText_of_bare cut]
    exact ⟨mem_typeWords_of_mem_plainWords string, rfl⟩
  | default modifier =>
    have type := typeWord_of_empty cut
    rw [needed_of_plain (type ▸ string), type, modifiers_of_parts cut]
    exact ⟨mem_typeWords_of_mem_plainWords string, uniqueAmong_of_mem modifier⟩
  | plain listed marked modifier =>
    have type := typeWord_of_marked cut marked (mem_typeWords_of_mem_plainWords listed)
    rw [needed_of_plain (type ▸ listed), type, modifiers_of_parts cut]
    exact ⟨mem_typeWords_of_mem_plainWords listed, uniqueAmong_of_mem modifier⟩
  | shorthand marked =>
    have type := typeWord_of_marked cut marked (by decide)
    rw [needed_of_unique type, type, modifiers_of_parts cut]
    exact ⟨by decide, rfl⟩
  | argued listed marked single modifier =>
    have type := typeWord_of_marked cut marked (mem_typeWords_of_mem_argumentWords listed)
    rw [needed_of_argument (type ▸ listed), type, ofText_of_typed cut]
    exact ⟨mem_typeWords_of_mem_argumentWords listed,
      congrArg (List.cons _) (uniqueAmong_of_mem modifier)⟩

theorem isTyping_of_tidy (known : (ofText token).typeWord ∈ typeWords)
    (tidy : (ofText token).needed = (ofText token).modifiers) : IsTyping (parts token).tail := by
  rcases ofText_cases token with ⟨name, cut, same⟩ | ⟨name, type, modifiers, cut, same⟩
  · rw [cut]
    exact .none
  · rw [modifiers_of_parts cut] at tidy
    rw [cut, List.tail_cons, ← tidy]
    have unique := uniqueAmong_mem_modifierLists
    by_cases empty : type = []
    · subst empty
      rw [needed_of_plain (typeWord_of_empty cut ▸ by decide)]
      exact .default (unique _)
    · have marked : Marked (ofText token).typeWord type := by
        rw [same, if_neg (by simpa using empty)]
        exact marked_dropEnding type
      rcases mem_typeWords_iff.1 known with listed | word | listed
      · rw [needed_of_argument listed]
        exact .argued listed marked (not_mem_argument token) (unique _)
      · rw [needed_of_unique word]
        exact .shorthand (word ▸ marked)
      · rw [needed_of_plain listed]
        exact .plain listed marked (unique _)

/-- A token is of the grammar exactly if its name is one of a column, its type is known, and the
    parser looks for all its parts. -/
theorem grammatical_iff : Grammatical token ↔ IsColumnName (ofText token).name ∧
    (ofText token).typeWord ∈ typeWords ∧ tidied token = token := by
  rw [grammatical_iff_parts, tidied_eq_iff]
  constructor
  · rintro ⟨name, part, rest, named, marked, typing, cut⟩
    rw [name_of_parts cut, marked.dropEnding named.getLast?_ne]
    exact ⟨named, typing.tidy cut⟩
  · rintro ⟨named, known, tidy⟩
    obtain ⟨part, rest, cut⟩ := List.exists_cons_of_ne_nil (Text.split_ne_nil ':' token)
    have typing := isTyping_of_tidy known tidy
    rw [name_of_parts cut] at named
    rw [show parts token = part :: rest from cut] at typing
    exact ⟨_, part, rest, named, marked_dropEnding part, typing, cut⟩

/-- The conditions on tokens of the grammar: the name is free, and an argument is given that is not
    the modifier. -/
structure Proper (t : Token) : Prop where
  free : Text.lower t.name ∉ sqlWords
  noKey : t.name ≠ primaryKey
  choices : t.typeWord = "enum".toList → t.choices ≠ [] ∧ t.argument ≠ "unique".toList
  target : t.typeWord = "references".toList → t.argument ≠ [] ∧ t.argument ≠ "unique".toList

theorem check_eq_ok_iff : check token = .ok () ↔
    isIdentifier Char.isLower (ofText token).name = true ∧ (ofText token).typeWord ∈ typeWords ∧
      (ofText token).Proper := by
  constructor
  · intro checked
    obtain ⟨_, named, typed⟩ := bind_eq_ok_iff.1 checked
    obtain ⟨identifier, free, noKey⟩ := checkName_eq_ok_iff.1 named
    obtain ⟨known, choices, target⟩ := checkType_eq_ok_iff.1 typed
    exact ⟨identifier, known, free, noKey, choices, target⟩
  · rintro ⟨identifier, known, proper⟩
    exact bind_eq_ok_iff.2 ⟨(), checkName_eq_ok_iff.2 ⟨identifier, proper.free, proper.noKey⟩,
      checkType_eq_ok_iff.2 ⟨known, proper.choices, proper.target⟩⟩

/-- A token that is accepted is read as the same field without the parts that are passed over, and
    it is one of the grammar exactly if there are none and no line feed ends its name. A token of
    the grammar is accepted exactly if it is proper. -/
theorem accepted_grammatical_iff (token : Text) :
    (∀ f, Field.ofToken token = .ok f → Field.ofToken (tidied token) = .ok f ∧
      (Grammatical token ↔ '\n' ∉ f.name ∧ tidied token = token)) ∧
    (Grammatical token → ((∃ f, Field.ofToken token = .ok f) ↔ (ofText token).Proper)) := by
  constructor
  · intro f read
    refine ⟨ofToken_tidied read, ?_⟩
    obtain ⟨named, reads⟩ := Field.ofToken_eq_ok_iff.1 read
    have identifier := (checkName_eq_ok_iff.1 named).1
    have known := (checkType_eq_ok_iff.1 reads.checkType).1
    rw [grammatical_iff, isColumnName_iff, reads.name_eq]
    exact ⟨fun ⟨⟨_, line⟩, _, tidy⟩ => ⟨line, tidy⟩,
      fun ⟨line, tidy⟩ => ⟨⟨identifier, line⟩, known, tidy⟩⟩
  · intro grammatical
    obtain ⟨named, known, -⟩ := grammatical_iff.1 grammatical
    constructor
    · rintro ⟨f, read⟩
      obtain ⟨_, checked, -⟩ := bind_eq_ok_iff.1 read
      exact (check_eq_ok_iff.1 checked).2.2
    · intro proper
      exact Field.exists_ofToken (check_eq_ok_iff.2 ⟨(isColumnName_iff.1 named).1, known, proper⟩)

/-- All four parts of this token are looked for. -/
theorem state_grammatical :
    Grammatical "state:enum?: draft ,live:unique" ∧
      (ofText "state:enum?: draft ,live:unique").Proper ∧
      Field.ofToken "state:enum?: draft ,live:unique" = .ok
        { name := "state"
          kind := .enum
          nullable := true
          unique := true
          isEnum := true
          choices := some ["draft", "live"] } := by
  have read : Field.ofToken "state:enum?: draft ,live:unique" = .ok
      { name := "state"
        kind := .enum
        nullable := true
        unique := true
        isEnum := true
        choices := some ["draft", "live"] } := by decide
  obtain ⟨accepted, proper⟩ := accepted_grammatical_iff "state:enum?: draft ,live:unique"
  have grammatical := (accepted _ read).2.2 ⟨by decide, by decide⟩
  exact ⟨grammatical, (proper grammatical).1 ⟨_, read⟩, read⟩

/-- A part that stands before the modifier is passed over, and a line feed that ends the name is
    kept. -/
theorem title_not_grammatical :
    Field.ofToken "title:string:indexed:unique" =
        .ok { name := "title", unique := true } ∧
      ¬ Grammatical "title:string:indexed:unique" ∧
      Field.ofToken "title\n" = .ok { name := "title\n" } ∧ ¬ Grammatical "title\n" := by
  refine ⟨by decide, fun grammatical => ?_, by decide, fun grammatical => ?_⟩
  · exact absurd (grammatical_iff.1 grammatical).2.2 (by decide)
  · exact absurd (isColumnName_iff.1 (grammatical_iff.1 grammatical).1).2 (by decide)

end Token

end Groundwork
