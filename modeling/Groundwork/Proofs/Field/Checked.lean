import Groundwork.Proofs.Field.Parsed

/-!
# What the check of a token guards

A token is read in two steps: a check says whether it is well formed, and then its parts are taken
for the field as they stand. The second step never fails on what passed the first: a token is read
exactly if its name and its type passed their checks, and `Reads` says as which field
(`ofToken_eq_ok_iff`). So a token that is refused is refused by its check, and a field that was read
has what its kind needs (`ofToken_guarded`).
-/

namespace Groundwork

namespace FieldKind

theorem isPlain_iff {kind : FieldKind} :
    kind.isPlain = true ↔ kind ≠ .enum ∧ kind ≠ .references := by
  simp [isPlain]

theorem ofWord?_word (kind : FieldKind) : ofWord? kind.word = some kind := by
  cases kind <;> decide

theorem mem_plainWords_iff {word : Text} :
    word ∈ plainWords ↔ ∃ kind : FieldKind, kind.isPlain = true ∧ kind.word = word := by
  have listed (kind : FieldKind) : kind ∈ all := by cases kind <;> decide
  simp [plainWords, listed]

end FieldKind

namespace Token

variable {word : Text} {t : Token} {f : Field}

/-! ## The check of the type -/

/-- The types that ask for an argument. -/
def argumentWords : List Text := ["enum", "references"].map String.toList

theorem mem_argumentWords_iff :
    word ∈ argumentWords ↔ word = "enum".toList ∨ word = "references".toList := by
  simp only [argumentWords, List.map_cons, List.map_nil, List.mem_cons, List.not_mem_nil, or_false]

theorem mem_typeWords_iff : word ∈ typeWords ↔
    word ∈ argumentWords ∨ word = "unique".toList ∨ word ∈ FieldKind.plainWords := by
  have marked : word ∈ ["references", "enum", "unique"].map String.toList ↔
      word ∈ argumentWords ∨ word = "unique".toList := by
    simp only [argumentWords, List.map_cons, List.map_nil, List.mem_cons, List.not_mem_nil,
      or_false]
    tauto
  rw [typeWords, List.mem_append, marked, or_assoc]

/-- A type lacks its argument if none is given, or the modifier stands in its place. -/
theorem lacks_iff {α : Type} {given : List α} :
    (decide (t.typeWord = word) && (given.isEmpty || decide (t.argument = "unique".toList))) =
        true ↔ ¬ (t.typeWord = word → given ≠ [] ∧ t.argument ≠ "unique".toList) := by
  rw [Bool.and_eq_true, Bool.or_eq_true, decide_eq_true_iff, decide_eq_true_iff, List.isEmpty_iff,
    Classical.not_imp, not_and_or, not_ne_iff, not_ne_iff]

theorem checkType_eq_ok_iff : t.checkType = .ok () ↔ t.typeWord ∈ typeWords ∧
    (t.typeWord = "enum".toList → t.choices ≠ [] ∧ t.argument ≠ "unique".toList) ∧
    (t.typeWord = "references".toList → t.argument ≠ [] ∧ t.argument ≠ "unique".toList) := by
  unfold checkType
  split_ifs with unknown noChoices noTarget
  · refine iff_of_false nofun fun ⟨known, _⟩ => ?_
    simp [known] at unknown
  · exact iff_of_false nofun fun ⟨_, choices, _⟩ => lacks_iff.1 noChoices choices
  · exact iff_of_false nofun fun ⟨_, _, target⟩ => lacks_iff.1 noTarget target
  · rw [lacks_iff, not_not] at noChoices noTarget
    exact iff_of_true rfl ⟨by simpa using unknown, noChoices, noTarget⟩

/-! ## Fields by the type of their token -/

/-- The field that a well-formed token stands for, by the word for its type. -/
inductive Reads (t : Token) : Field → Prop
  /-- The type `unique` is short for a unique string. -/
  | shorthand (type : t.typeWord = "unique".toList) :
    Reads t { name := t.name, nullable := t.isNullable, unique := true }
  | enum (type : t.typeWord = "enum".toList) (given : t.choices ≠ [])
    (other : t.argument ≠ "unique".toList) :
    Reads t
      { name := t.name
        kind := .enum
        nullable := t.isNullable
        unique := (t.modifiers.drop 1).contains "unique".toList
        isEnum := true
        choices := some t.choices }
  | references (type : t.typeWord = "references".toList) (given : t.argument ≠ [])
    (other : t.argument ≠ "unique".toList) :
    Reads t
      { name := t.name
        kind := .references
        nullable := t.isNullable
        unique := (t.modifiers.drop 1).contains "unique".toList
        isReference := true
        target := some t.argument }
  | plain (kind : FieldKind) (isPlain : kind.isPlain = true) (type : t.typeWord = kind.word) :
    Reads t
      { name := t.name
        kind := kind
        nullable := t.isNullable
        unique := t.modifiers.contains "unique".toList }

theorem Reads.name_eq (reads : t.Reads f) : f.name = t.name := by
  cases reads <;> rfl

theorem Reads.nullable_eq (reads : t.Reads f) : f.nullable = t.isNullable := by
  cases reads <;> rfl

theorem Reads.checkType (reads : t.Reads f) : t.checkType = .ok () := by
  have apart : ∀ word ∈ FieldKind.plainWords,
      word ≠ "enum".toList ∧ word ≠ "references".toList := by decide
  rw [checkType_eq_ok_iff]
  cases reads with
  | shorthand type =>
    rw [type]
    exact ⟨by decide, fun same => absurd same (by decide), fun same => absurd same (by decide)⟩
  | enum type given other =>
    rw [type]
    exact ⟨by decide, fun _ => ⟨given, other⟩, fun same => absurd same (by decide)⟩
  | references type given other =>
    rw [type]
    exact ⟨by decide, fun same => absurd same (by decide), fun _ => ⟨given, other⟩⟩
  | plain kind isPlain type =>
    have listed := FieldKind.mem_plainWords_iff.2 ⟨kind, isPlain, rfl⟩
    obtain ⟨noEnum, noReference⟩ := apart _ listed
    rw [type]
    exact ⟨List.mem_append_right _ listed, fun same => absurd same noEnum,
      fun same => absurd same noReference⟩

/-- A field that has what its kind needs is complete. -/
theorem complete_eq_ok (choices : f.kind = .enum → f.choiceList ≠ [])
    (target : f.kind = .references → f.target.getD [] ≠ []) : f.complete = .ok f := by
  unfold Field.complete
  split_ifs with lacks lacksTarget
  · simp_all
  · simp_all
  · rfl

theorem Reads.field (reads : t.Reads f) : t.field = .ok f := by
  unfold Token.field
  cases reads with
  | shorthand type =>
    rw [if_pos type]
    exact complete_eq_ok (fun same => by cases same) fun same => by cases same
  | enum type given other =>
    rw [type, if_neg (by decide), show FieldKind.ofWord? "enum".toList = _ from
      FieldKind.ofWord?_word .enum]
    exact complete_eq_ok (fun _ => given) fun same => by cases same
  | references type given other =>
    rw [type, if_neg (by decide), show FieldKind.ofWord? "references".toList = _ from
      FieldKind.ofWord?_word .references]
    exact complete_eq_ok (fun same => by cases same) fun _ => given
  | plain kind isPlain type =>
    have words : ∀ word ∈ FieldKind.plainWords, word ≠ "unique".toList := by decide
    obtain ⟨noEnum, noReference⟩ := FieldKind.isPlain_iff.1 isPlain
    rw [type, if_neg (words _ (FieldKind.mem_plainWords_iff.2 ⟨kind, isPlain, rfl⟩)),
      FieldKind.ofWord?_word]
    split
    · next found => cases found
    · next found => exact absurd (Option.some.inj found) noEnum
    · next found => exact absurd (Option.some.inj found) noReference
    · next found =>
      obtain rfl := Option.some.inj found
      exact complete_eq_ok (fun same => absurd same noEnum) fun same => absurd same noReference

/-- What passed the check of its type can be read. -/
theorem exists_reads (checked : t.checkType = .ok ()) : ∃ f, t.Reads f := by
  obtain ⟨known, choices, target⟩ := checkType_eq_ok_iff.1 checked
  rcases mem_typeWords_iff.1 known with argued | type | plain
  · rcases mem_argumentWords_iff.1 argued with type | type
    · obtain ⟨given, other⟩ := choices type
      exact ⟨_, .enum type given other⟩
    · obtain ⟨given, other⟩ := target type
      exact ⟨_, .references type given other⟩
  · exact ⟨_, .shorthand type⟩
  · obtain ⟨kind, isPlain, type⟩ := FieldKind.mem_plainWords_iff.1 plain
    exact ⟨_, .plain kind isPlain type.symm⟩

end Token

/-! ## The parts of a token -/

namespace Token

variable {token : Text}

/-- The parts between the colons. -/
abbrev parts (token : Text) : List Text := Text.split ':' token

variable {name type : Text} {modifiers : List Text}

theorem ofText_of_bare (cut : parts token = [name]) : ofText token = ⟨name, "string", []⟩ := by
  unfold ofText
  rw [show Text.split ':' token = [name] from cut]

theorem ofText_of_typed (cut : parts token = name :: type :: modifiers) :
    ofText token = ⟨name, if type.isEmpty then "string" else type, modifiers⟩ := by
  unfold ofText
  rw [show Text.split ':' token = name :: type :: modifiers from cut]

/-- A token has a name alone, or a name and a type. -/
theorem ofText_cases (token : Text) :
    (∃ name, parts token = [name] ∧ ofText token = ⟨name, "string", []⟩) ∨
    ∃ name type modifiers, parts token = name :: type :: modifiers ∧
      ofText token = ⟨name, if type.isEmpty then "string" else type, modifiers⟩ := by
  match cut : parts token with
  | [] => exact absurd cut (Text.split_ne_nil ':' token)
  | [name] => exact .inl ⟨name, rfl, ofText_of_bare cut⟩
  | name :: type :: modifiers => exact .inr ⟨name, type, modifiers, rfl, ofText_of_typed cut⟩

/-- A field is nullable exactly if a question mark ends the first or the second part. -/
theorem isNullable_iff (token : Text) :
    (ofText token).isNullable = true ↔ ∃ part ∈ (parts token).take 2, ['?'] <:+ part := by
  have string : ¬ ['?'] <:+ ['s', 't', 'r', 'i', 'n', 'g'] := by decide
  have empty : ¬ ['?'] <:+ ([] : Text) := by decide
  unfold isNullable
  rw [Bool.or_eq_true, Text.endsWith_iff, Text.endsWith_iff]
  rcases ofText_cases token with ⟨name, cut, same⟩ | ⟨name, type, modifiers, cut, same⟩
  · rw [cut, same]
    simp [string]
  · rw [cut, same]
    cases type with
    | nil => simp [string, empty]
    | cons c type => simp

theorem two_lt_length_parts (given : (ofText token).argument ≠ []) : 2 < (parts token).length := by
  rcases ofText_cases token with ⟨name, cut, same⟩ | ⟨name, type, modifiers, cut, same⟩
  · rw [same] at given
    exact absurd rfl given
  · rw [same] at given
    obtain ⟨argument, rest, rfl⟩ : ∃ argument rest, modifiers = argument :: rest :=
      List.exists_cons_of_ne_nil fun none => given (by rw [none]; rfl)
    rw [cut]
    simp

theorem argument_ne_nil {t : Token} (given : t.choices ≠ []) : t.argument ≠ [] := by
  intro none
  unfold choices at given
  rw [none] at given
  exact given (by decide)

/-- The values of an enum: each is a text without blanks at its ends, and it is what stood between
    two commas. -/
theorem of_mem_choices {t : Token} {value : Text} (member : value ∈ t.choices) :
    value ≠ [] ∧ Text.trim value = value ∧ ',' ∉ value := by
  obtain ⟨listed, nonempty⟩ := List.mem_filter.1 member
  obtain ⟨piece, cut, rfl⟩ := List.mem_map.1 listed
  refine ⟨?_, Text.trim_trim piece, fun comma => ?_⟩
  · rintro empty
    simp [empty] at nonempty
  · exact Text.not_mem_of_mem_split cut (Text.trim_subset piece comma)

end Token

namespace Field

variable {token : Text} {f : Field}

/-- The field has what its kind needs and nothing else: an enum its values, a reference its
    target. -/
structure Furnished (f : Field) : Prop where
  isEnum_iff : f.isEnum = true ↔ f.kind = .enum
  choices_iff : f.choices.isSome = true ↔ f.kind = .enum
  isReference_iff : f.isReference = true ↔ f.kind = .references
  target_iff : f.target.isSome = true ↔ f.kind = .references
  choices_ne_nil : ∀ choices ∈ f.choices, choices ≠ []
  of_mem_choices : ∀ choices ∈ f.choices, ∀ value ∈ choices,
    value ≠ [] ∧ Text.trim value = value ∧ ',' ∉ value ∧ ':' ∉ value
  of_mem_target : ∀ target ∈ f.target, target ≠ [] ∧ ':' ∉ target

theorem furnished_of_reads (reads : (Token.ofText token).Reads f) : f.Furnished := by
  cases reads with
  | shorthand => constructor <;> simp
  | enum type given other =>
    have values (value : Text) (member : value ∈ (Token.ofText token).choices) :
        value ≠ [] ∧ Text.trim value = value ∧ ',' ∉ value ∧ ':' ∉ value := by
      obtain ⟨nonempty, trimmed, comma⟩ := Token.of_mem_choices member
      exact ⟨nonempty, trimmed, comma, fun colon =>
        Token.not_mem_argument token (Token.choices_subset_argument member colon)⟩
    constructor <;> simp [given]
    exact values
  | references type given other =>
    constructor <;> simp [given, Token.not_mem_argument]
  | plain kind isPlain type =>
    obtain ⟨noEnum, noReference⟩ := FieldKind.isPlain_iff.1 isPlain
    constructor <;> simp [noEnum, noReference]

/-- A token is read exactly if its name passed its check and its type and the parts after it stand
    for a field. -/
theorem ofToken_eq_ok_iff : ofToken token = .ok f ↔
    Token.checkName token (Token.ofText token).name = .ok () ∧ (Token.ofText token).Reads f := by
  constructor
  · intro read
    obtain ⟨_, checked, built⟩ := bind_eq_ok_iff.1 read
    obtain ⟨_, named, typed⟩ := bind_eq_ok_iff.1 checked
    obtain ⟨g, reads⟩ := Token.exists_reads typed
    obtain rfl : g = f := Except.ok.inj (reads.field.symm.trans built)
    exact ⟨named, reads⟩
  · rintro ⟨named, reads⟩
    exact bind_eq_ok_iff.2 ⟨(), bind_eq_ok_iff.2 ⟨(), named, reads.checkType⟩, reads.field⟩

/-- A token that passed its check is read. -/
theorem exists_ofToken (checked : Token.check token = .ok ()) : ∃ f, ofToken token = .ok f := by
  obtain ⟨_, named, typed⟩ := bind_eq_ok_iff.1 checked
  obtain ⟨f, reads⟩ := Token.exists_reads typed
  exact ⟨f, ofToken_eq_ok_iff.2 ⟨named, reads⟩⟩

/-- The parser takes only parts that are there: where a field needs an argument, its token has a
    third part. -/
theorem two_lt_length_of_reads (reads : (Token.ofText token).Reads f)
    (needs : f.kind = .enum ∨ f.kind = .references) : 2 < (Token.parts token).length := by
  cases reads with
  | shorthand => simp at needs
  | enum type given other => exact Token.two_lt_length_parts (Token.argument_ne_nil given)
  | references type given other => exact Token.two_lt_length_parts given
  | plain kind isPlain type =>
    obtain ⟨noEnum, noReference⟩ := FieldKind.isPlain_iff.1 isPlain
    exact (needs.elim noEnum noReference).elim

/-- A token is refused with the failure of its check and no other, or it is read as a field that has
    what its kind needs. -/
theorem ofToken_guarded (token : Text) :
    (∃ failure, Token.check token = .error failure ∧ ofToken token = .error failure) ∨
    ∃ f, Token.check token = .ok () ∧ ofToken token = .ok f ∧ f.Furnished ∧
      (f.kind = .enum ∨ f.kind = .references → 2 < (Token.parts token).length) ∧
      (f.nullable = true ↔ ∃ part ∈ (Token.parts token).take 2, ['?'] <:+ part) := by
  cases checked : Token.check token with
  | error failure =>
    left
    refine ⟨failure, rfl, ?_⟩
    unfold ofToken
    rw [checked]
    rfl
  | ok =>
    right
    obtain ⟨f, read⟩ := exists_ofToken checked
    obtain ⟨-, reads⟩ := ofToken_eq_ok_iff.1 read
    refine ⟨f, rfl, read, furnished_of_reads reads, two_lt_length_of_reads reads, ?_⟩
    rw [reads.nullable_eq, Token.isNullable_iff]

end Field

end Groundwork
