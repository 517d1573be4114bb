import Groundwork.Field.Token
import Groundwork.Proofs.Except
import Groundwork.Proofs.Naming.Spelling
import Groundwork.Proofs.Text.Trim

/-!
# Fields read from tokens

What is known about names that passed their check and about fields that were read from tokens: a
name without line feeds is one of letters and digits (`letters_of_isIdentifier`), an enum has
values, and the fields of one model have different names (`FitTogether`). All text of a field stands
in its token (`mem_of_ofToken`).
-/

namespace Groundwork

/-! ## Names -/

/-- The ending of a text was dropped from it, or the text does not have it. -/
theorem Text.eq_dropEnding (lit s : Text) : s = dropEnding lit s ∨ s = dropEnding lit s ++ lit := by
  unfold dropEnding
  cases found : before? lit s with
  | none => exact .inl rfl
  | some front => exact .inr (before?_eq_some_iff.1 found)

theorem Text.dropEnding_append (lit s : Text) : dropEnding lit (s ++ lit) = s := by
  unfold dropEnding
  rw [before?_eq_some_iff.2 rfl]
  rfl

/-- Nothing is dropped from a text that ends otherwise. -/
theorem Text.dropEnding_of_getLast?_ne {c : Char} {s : Text} (other : s.getLast? ≠ some c) :
    dropEnding [c] s = s := by
  unfold dropEnding
  cases found : before? [c] s with
  | none => rfl
  | some front =>
    rw [before?_eq_some_iff] at found
    simp [found] at other

/-- An identifier is a letter with letters and digits after it, and a line feed may end it. -/
theorem isIdentifier_iff {first : Char → Bool} {name : Text} :
    isIdentifier first name = true ↔ ∃ c s, (name = c :: s ∨ name = c :: s ++ ['\n']) ∧
      c.isAlpha = true ∧ first c = true ∧ ∀ d ∈ s, d.isAlphanum = true := by
  unfold isIdentifier
  constructor
  · intro identifier
    have whole := Text.eq_dropEnding ['\n'] name
    split at identifier
    · cases identifier
    · next c s cut =>
      simp only [Bool.and_eq_true, List.all_eq_true] at identifier
      rw [cut] at whole
      exact ⟨c, s, whole, identifier.1.1, identifier.1.2, identifier.2⟩
  · rintro ⟨c, s, whole, letter, head, letters⟩
    have left : Text.dropEnding ['\n'] name = c :: s := by
      rcases whole with rfl | rfl
      · refine Text.dropEnding_of_getLast?_ne fun last => ?_
        rcases List.mem_cons.1 (List.mem_of_getLast? last) with rfl | member
        · exact absurd letter (by decide)
        · exact absurd (letters _ member) (by decide)
      · exact Text.dropEnding_append _ (c :: s)
    rw [left]
    simpa [letter, head] using letters

/-- An identifier without line feeds is a letter with letters and digits after it. -/
theorem letters_of_isIdentifier {first : Char → Bool} {name : Text} (noBreak : '\n' ∉ name)
    (identifier : isIdentifier first name = true) :
    ∃ c s, name = c :: s ∧ c.isAlpha = true ∧ first c = true ∧ ∀ d ∈ s, d.isAlphanum = true := by
  obtain ⟨c, s, rfl | rfl, letter, head, letters⟩ := isIdentifier_iff.1 identifier
  · exact ⟨c, s, rfl, letter, head, letters⟩
  · simp at noBreak

theorem plain_of_isIdentifier {first : Char → Bool} {name : Text} (noBreak : '\n' ∉ name)
    (identifier : isIdentifier first name = true) : Text.Plain name := by
  obtain ⟨c, s, rfl, letter, -, rest⟩ := letters_of_isIdentifier noBreak identifier
  intro d member
  rcases List.mem_cons.1 member with rfl | member
  · simp [Text.isPlain, Char.isAlphanum, letter]
  · simp [Text.isPlain, rest d member]

theorem not_isIdentifier_nil (first : Char → Bool) : isIdentifier first [] = false := rfl

theorem checkModelName_eq_ok_iff {name : Text} : checkModelName name = .ok () ↔
    isIdentifier (fun _ => true) name = true ∧ Text.lower name ∉ reservedModelNames := by
  unfold checkModelName
  split_ifs with empty other reserved
  · rw [List.isEmpty_iff.1 empty, not_isIdentifier_nil]
    simp
  · simp_all
  · simp_all
  · simp_all

theorem isIdentifier_of_checkModelName {name : Text} (valid : checkModelName name = .ok ()) :
    isIdentifier (fun _ => true) name = true :=
  (checkModelName_eq_ok_iff.1 valid).1

theorem Token.checkName_eq_ok_iff {token name : Text} : checkName token name = .ok () ↔
    isIdentifier Char.isLower name = true ∧ Text.lower name ∉ sqlWords ∧ name ≠ primaryKey := by
  unfold checkName
  split_ifs with empty other word key
  · rw [List.isEmpty_iff.1 empty, not_isIdentifier_nil]
    simp
  · simp_all
  · simp_all
  · simp [key]
  · simp_all

/-- The name of a model that was accepted is plain. -/
theorem plain_of_checkModelName {name : Text} (noBreak : '\n' ∉ name)
    (valid : checkModelName name = .ok ()) : Text.Plain name :=
  plain_of_isIdentifier noBreak (isIdentifier_of_checkModelName valid)

/-! ## Parts of a token -/

theorem Text.dropEnding_subset (lit s : Text) : dropEnding lit s ⊆ s := by
  unfold dropEnding
  cases found : before? lit s with
  | none => exact List.Subset.refl s
  | some front =>
    rw [before?_eq_some_iff] at found
    simp [found]

namespace Token

variable {token : Text}

theorem namePart_subset (token : Text) : (ofText token).namePart ⊆ token := by
  unfold ofText
  split
  · simp
  · next name pieces => exact Text.subset_of_mem_split ':' (by simp [pieces])
  · next name type modifiers pieces => exact Text.subset_of_mem_split ':' (by simp [pieces])

theorem modifiers_subset {modifier : Text} (member : modifier ∈ (ofText token).modifiers) :
    modifier ⊆ token := by
  unfold ofText at member
  split at member
  · simp at member
  · simp at member
  · next name type modifiers pieces =>
    exact Text.subset_of_mem_split ':' (by simp [pieces, member])

theorem argument_subset (token : Text) : (ofText token).argument ⊆ token := by
  unfold argument
  cases found : (ofText token).modifiers with
  | nil => simp
  | cons first modifiers => exact modifiers_subset (by simp [found])

/-- The argument is one of the parts between the colons. -/
theorem not_mem_argument (token : Text) : ':' ∉ (ofText token).argument := by
  unfold argument ofText
  split
  · simp
  · simp
  · next name type modifiers pieces =>
    cases modifiers with
    | nil => simp
    | cons first modifiers => exact Text.not_mem_of_mem_split (s := token) (by simp [pieces])

/-- Every value of an enum stands in the argument. -/
theorem choices_subset_argument {t : Token} {value : Text} (member : value ∈ t.choices) :
    value ⊆ t.argument := by
  obtain ⟨piece, listed, rfl⟩ := List.mem_map.1 (List.mem_filter.1 member).1
  exact fun _ inside => Text.subset_of_mem_split _ listed (Text.trim_subset piece inside)

theorem choices_subset {value : Text} (member : value ∈ (ofText token).choices) :
    value ⊆ token :=
  fun _ inside => argument_subset token (choices_subset_argument member inside)

theorem eq_of_complete {f g : Field} (complete : Field.complete f = .ok g) :
    g = f ∧ (f.kind = .enum → f.choiceList ≠ []) := by
  unfold Field.complete at complete
  split at complete
  · simp at complete
  · next given =>
    split at complete
    · simp at complete
    · refine ⟨(Except.ok.inj complete).symm, ?_⟩
      intro isEnum empty
      simp [isEnum, empty] at given

/-- What a token's field takes from the token's parts. -/
theorem field_spec {t : Token} {f : Field} (read : t.field = .ok f) :
    f.name = t.name ∧ (f.isEnum = true → f.choiceList ≠ []) ∧
      (∀ value ∈ f.choiceList, value ∈ t.choices) ∧ f.target.getD [] ⊆ t.argument := by
  unfold Token.field at read
  split at read
  · obtain ⟨rfl, -⟩ := eq_of_complete read
    simp [Field.choiceList]
  · split at read
    · simp at read
    · obtain ⟨rfl, given⟩ := eq_of_complete read
      exact ⟨rfl, fun _ => given rfl, fun _ member => member, by simp⟩
    · obtain ⟨rfl, -⟩ := eq_of_complete read
      simp [Field.choiceList]
    · obtain ⟨rfl, -⟩ := eq_of_complete read
      simp [Field.choiceList]

end Token

/-! ## Fields of a model -/

/-- The field has a name that passed its check, and values if it is an enum. -/
structure Field.WellFormed (f : Field) : Prop where
  identifier : isIdentifier Char.isLower f.name = true
  choices : f.isEnum = true → f.choiceList ≠ []

/-- The name of a field that was read from a token passed its check. -/
theorem Field.checkName_of_ofToken {token : Text} {f : Field} (read : ofToken token = .ok f) :
    Token.checkName token f.name = .ok () := by
  obtain ⟨_, checked, built⟩ := bind_eq_ok_iff.1 read
  obtain ⟨_, checkedName, -⟩ := bind_eq_ok_iff.1 checked
  rwa [(Token.field_spec built).1]

theorem Field.wellFormed_of_ofToken {token : Text} {f : Field} (read : ofToken token = .ok f) :
    f.WellFormed := by
  obtain ⟨_, -, built⟩ := bind_eq_ok_iff.1 read
  obtain ⟨-, choices, -, -⟩ := Token.field_spec built
  exact ⟨(Token.checkName_eq_ok_iff.1 (checkName_of_ofToken read)).1, choices⟩

/-- A character of a field's texts stands in its token. -/
theorem Field.mem_of_ofToken {token : Text} {f : Field} (read : ofToken token = .ok f) :
    f.name ⊆ token ∧ (∀ value ∈ f.choiceList, value ⊆ token) ∧ f.target.getD [] ⊆ token := by
  obtain ⟨_, -, built⟩ := bind_eq_ok_iff.1 read
  obtain ⟨name, -, choices, target⟩ := Token.field_spec built
  refine ⟨?_, ?_, fun _ inside => Token.argument_subset token (target inside)⟩
  · rw [name]
    exact fun _ inside => Token.namePart_subset token (Text.dropEnding_subset _ _ inside)
  · exact fun value member => Token.choices_subset (choices value member)

/-- A field that was read from a token does not take the name of the primary key. -/
theorem Field.ne_primaryKey_of_ofToken {token : Text} {f : Field} (read : ofToken token = .ok f) :
    f.name ≠ primaryKey :=
  (Token.checkName_eq_ok_iff.1 (checkName_of_ofToken read)).2.2

theorem Field.not_mem_target {token : Text} {f : Field} (read : ofToken token = .ok f) :
    ':' ∉ f.target.getD [] := by
  obtain ⟨_, -, built⟩ := bind_eq_ok_iff.1 read
  obtain ⟨-, -, -, target⟩ := Token.field_spec built
  exact fun member => Token.not_mem_argument token (target member)

theorem Field.not_mem_choices {token : Text} {f : Field} (read : ofToken token = .ok f) :
    ∀ value ∈ f.choiceList, ':' ∉ value := by
  obtain ⟨_, -, built⟩ := bind_eq_ok_iff.1 read
  obtain ⟨-, -, choices, -⟩ := Token.field_spec built
  exact fun value given member => Token.not_mem_argument token
    (Token.choices_subset_argument (choices value given) member)

/-- A field that is accepted takes neither a name given earlier nor, where the model has the
    generated timestamp columns, the name of one of them. -/
theorem Field.ofTokenAfter_eq_ok {noTimestamps : Bool} {earlier : List Text} {token : Text}
    {f : Field} (read : ofTokenAfter noTimestamps earlier token = .ok f) :
    ofToken token = .ok f ∧ f.name ∉ earlier ∧
      (noTimestamps = false → f.name ∉ timestampNames) := by
  obtain ⟨g, readToken, rest⟩ := bind_eq_ok_iff.1 read
  by_cases stamped : (!noTimestamps && timestampNames.contains g.name) = true
  · rw [if_pos stamped] at rest
    cases rest
  · rw [if_neg stamped] at rest
    by_cases repeated : earlier.contains g.name = true
    · simp only [repeated, if_true] at rest
      cases rest
    · simp only [repeated] at rest
      obtain rfl : g = f := Except.ok.inj rest
      refine ⟨readToken, by simpa using repeated, fun given => ?_⟩
      simpa [given] using stamped

theorem Field.ofTokensAfter_spec {noTimestamps : Bool} {tokens : List Text} {earlier : List Text}
    {fields : List Field} (read : ofTokensAfter noTimestamps earlier tokens = .ok fields) :
    (∀ f ∈ fields, ∃ token ∈ tokens, ofToken token = .ok f) ∧
      (∀ f ∈ fields, f.name ∉ earlier) ∧ (fields.map Field.name).Nodup := by
  induction tokens generalizing earlier fields with
  | nil =>
    simp only [ofTokensAfter, Except.ok.injEq] at read
    simp [← read]
  | cons token tokens ih =>
    obtain ⟨f, first, rest⟩ := bind_eq_ok_iff.1 read
    obtain ⟨others, later, same⟩ := bind_eq_ok_iff.1 rest
    obtain rfl : f :: others = fields := by simpa [pure, Except.pure] using same
    obtain ⟨readToken, fresh, -⟩ := ofTokenAfter_eq_ok first
    obtain ⟨tokensOf, apart, distinct⟩ := ih later
    refine ⟨?_, ?_, ?_⟩
    · intro g member
      rcases List.mem_cons.1 member with rfl | member
      · exact ⟨token, by simp, readToken⟩
      · obtain ⟨other, listed, readOther⟩ := tokensOf g member
        exact ⟨other, by simp [listed], readOther⟩
    · intro g member
      rcases List.mem_cons.1 member with rfl | member
      · exact fresh
      · exact fun among => apart g member (List.mem_cons_of_mem _ among)
    · rw [List.map_cons, List.nodup_cons]
      refine ⟨?_, distinct⟩
      intro repeated
      obtain ⟨g, member, same⟩ := List.mem_map.1 repeated
      exact apart g member (by simp [same])

/-- Where a model has the generated timestamp columns, no field takes the name of one. -/
theorem Field.not_mem_timestampNames {noTimestamps : Bool} {tokens : List Text}
    {earlier : List Text} {fields : List Field}
    (read : ofTokensAfter noTimestamps earlier tokens = .ok fields)
    (stamped : noTimestamps = false) : ∀ f ∈ fields, f.name ∉ timestampNames := by
  induction tokens generalizing earlier fields with
  | nil =>
    simp only [ofTokensAfter, Except.ok.injEq] at read
    simp [← read]
  | cons token tokens ih =>
    obtain ⟨f, first, rest⟩ := bind_eq_ok_iff.1 read
    obtain ⟨others, later, same⟩ := bind_eq_ok_iff.1 rest
    obtain rfl : f :: others = fields := by simpa [pure, Except.pure] using same
    intro g member
    rcases List.mem_cons.1 member with rfl | member
    · exact (ofTokenAfter_eq_ok first).2.2 stamped
    · exact ih later g member

/-- Fields that can stand in one model: each is well formed, and no two have the same name. -/
structure Field.FitTogether (fields : List Field) : Prop where
  wellFormed : ∀ f ∈ fields, f.WellFormed
  distinct : (fields.map Field.name).Nodup

theorem Field.fitTogether_of_ofTokens {tokens : List Text} {noTimestamps : Bool}
    {fields : List Field} (read : ofTokens tokens noTimestamps = .ok fields) :
    FitTogether fields := by
  obtain ⟨tokensOf, -, distinct⟩ := ofTokensAfter_spec read
  refine ⟨?_, distinct⟩
  intro f member
  obtain ⟨token, -, readToken⟩ := tokensOf f member
  exact wellFormed_of_ofToken readToken

end Groundwork
