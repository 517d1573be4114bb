import Groundwork.Proofs.Field.Parsed

/-!
# Fields of one model

The tokens of a model are read one by one, and a token may be refused for itself or for the tokens
before it. All are accepted exactly if each is, and if their names go together; otherwise they are
refused at the first token that does not go with those before it, with that token's own failure if
it has one (`ofTokens_checked`).
-/

namespace Groundwork

namespace Field

variable {noTimestamps : Bool} {earlier : List Text} {token : Text} {tokens more : List Text}
  {f : Field} {fields : List Field} {failure : Failure}

/-! ## One token -/

/-- Why a field is refused after fields with the names `earlier`. -/
def refusal? (noTimestamps : Bool) (earlier : List Text) (f : Field) : Option Failure :=
  if !noTimestamps && timestampNames.contains f.name then some (.fieldNameTimestamp f.name)
  else if earlier.contains f.name then some (.fieldRepeated f.name)
  else none

theorem refusal?_eq_none_iff : refusal? noTimestamps earlier f = none ↔
    (noTimestamps = false → f.name ∉ timestampNames) ∧ f.name ∉ earlier := by
  unfold refusal?
  split_ifs with stamped repeated
  · simp only [Bool.and_eq_true, Bool.not_eq_true', List.contains_iff_mem] at stamped
    simp [stamped]
  · simp only [List.contains_iff_mem] at repeated
    simp [repeated]
  · simp only [Bool.and_eq_true, Bool.not_eq_true', List.contains_iff_mem, not_and]
      at stamped repeated
    exact iff_of_true rfl ⟨stamped, repeated⟩

theorem refusal?_cons_eq_none_iff {name : Text} : refusal? noTimestamps (name :: earlier) f = none ↔
    f.name ≠ name ∧ refusal? noTimestamps earlier f = none := by
  simp only [refusal?_eq_none_iff, List.mem_cons, not_or]
  tauto

/-- Only which names are there matters, not their order. -/
theorem refusal?_reverse : refusal? noTimestamps earlier.reverse f =
    refusal? noTimestamps earlier f := by
  simp [refusal?]

theorem ofTokenAfter_eq : ofTokenAfter noTimestamps earlier token =
    match ofToken token with
    | .error own => .error own
    | .ok f =>
      match refusal? noTimestamps earlier f with
      | some failure => .error failure
      | none => .ok f := by
  unfold ofTokenAfter refusal?
  cases read : ofToken token with
  | error own => rfl
  | ok f =>
    simp only [bind, Except.bind]
    generalize (!noTimestamps && timestampNames.contains f.name) = stamped
    generalize earlier.contains f.name = repeated
    cases stamped <;> cases repeated <;> rfl

theorem ofTokenAfter_eq_ok_iff : ofTokenAfter noTimestamps earlier token = .ok f ↔
    ofToken token = .ok f ∧ refusal? noTimestamps earlier f = none := by
  rw [ofTokenAfter_eq]
  cases ofToken token with
  | error own => simp
  | ok g =>
    dsimp only
    cases clash : refusal? noTimestamps earlier g with
    | none =>
      constructor
      · intro same
        obtain rfl := Except.ok.inj same
        exact ⟨rfl, clash⟩
      · exact And.left
    | some failure =>
      constructor
      · intro same
        cases same
      · rintro ⟨same, free⟩
        obtain rfl := Except.ok.inj same
        rw [clash] at free
        cases free

theorem ofTokenAfter_eq_error_iff : ofTokenAfter noTimestamps earlier token = .error failure ↔
    ofToken token = .error failure ∨
      ∃ f, ofToken token = .ok f ∧ refusal? noTimestamps earlier f = some failure := by
  rw [ofTokenAfter_eq]
  cases ofToken token with
  | error own => simp
  | ok g =>
    dsimp only
    cases clash : refusal? noTimestamps earlier g <;> simp [clash]

/-! ## A token before others -/

theorem ofTokensAfter_cons_eq_ok_iff :
    ofTokensAfter noTimestamps earlier (token :: tokens) = .ok fields ↔
      ∃ f others, ofTokenAfter noTimestamps earlier token = .ok f ∧
        ofTokensAfter noTimestamps (f.name :: earlier) tokens = .ok others ∧
        f :: others = fields := by
  constructor
  · intro read
    obtain ⟨f, first, rest⟩ := bind_eq_ok_iff.1 read
    obtain ⟨others, later, same⟩ := bind_eq_ok_iff.1 rest
    exact ⟨f, others, first, later, Except.ok.inj same⟩
  · rintro ⟨f, others, first, later, rfl⟩
    exact bind_eq_ok_iff.2 ⟨f, first, bind_eq_ok_iff.2 ⟨others, later, rfl⟩⟩

theorem ofTokensAfter_cons_eq_error_iff :
    ofTokensAfter noTimestamps earlier (token :: tokens) = .error failure ↔
      ofTokenAfter noTimestamps earlier token = .error failure ∨
      ∃ f, ofTokenAfter noTimestamps earlier token = .ok f ∧
        ofTokensAfter noTimestamps (f.name :: earlier) tokens = .error failure := by
  rw [ofTokensAfter]
  cases ofTokenAfter noTimestamps earlier token with
  | error own => simp [bind, Except.bind]
  | ok f =>
    cases later : ofTokensAfter noTimestamps (f.name :: earlier) tokens <;>
      simp [bind, Except.bind, pure, Except.pure, later]

/-! ## Tokens before others -/

/-- Tokens that are refused are refused whatever tokens follow. -/
theorem ofTokensAfter_append_of_error
    (refused : ofTokensAfter noTimestamps earlier tokens = .error failure) (more : List Text) :
    ofTokensAfter noTimestamps earlier (tokens ++ more) = .error failure := by
  induction tokens generalizing earlier with
  | nil => cases refused
  | cons token tokens ih =>
    rw [List.cons_append, ofTokensAfter_cons_eq_error_iff]
    rcases ofTokensAfter_cons_eq_error_iff.1 refused with own | ⟨f, first, later⟩
    · exact .inl own
    · exact .inr ⟨f, first, ih later⟩

/-- The names of fields in the order in which they are kept while tokens are read: the last one
    first. -/
def namesBackward (fields : List Field) : List Text :=
  (fields.map Field.name).reverse

theorem namesBackward_cons_append (f : Field) (fields : List Field) (earlier : List Text) :
    namesBackward (f :: fields) ++ earlier = namesBackward fields ++ f.name :: earlier := by
  simp [namesBackward]

/-- After tokens that are accepted, the names of their fields are among the earlier ones. -/
theorem ofTokensAfter_append_eq_error
    (read : ofTokensAfter noTimestamps earlier tokens = .ok fields)
    (refused : ofTokensAfter noTimestamps (namesBackward fields ++ earlier) more =
      .error failure) :
    ofTokensAfter noTimestamps earlier (tokens ++ more) = .error failure := by
  induction tokens generalizing earlier fields with
  | nil =>
    obtain rfl := Except.ok.inj read
    exact refused
  | cons token tokens ih =>
    obtain ⟨f, others, first, later, rfl⟩ := ofTokensAfter_cons_eq_ok_iff.1 read
    rw [namesBackward_cons_append] at refused
    exact ofTokensAfter_cons_eq_error_iff.2 (.inr ⟨f, first, ih later refused⟩)

/-! ## The first token that is refused -/

/-- Tokens that are refused have a first one that is refused after those before it. -/
theorem exists_refused (refused : ofTokensAfter noTimestamps earlier tokens = .error failure) :
    ∃ before token after fields, tokens = before ++ token :: after ∧
      ofTokensAfter noTimestamps earlier before = .ok fields ∧
      ofTokenAfter noTimestamps (namesBackward fields ++ earlier) token = .error failure := by
  induction tokens generalizing earlier with
  | nil => cases refused
  | cons token tokens ih =>
    rcases ofTokensAfter_cons_eq_error_iff.1 refused with own | ⟨f, first, later⟩
    · exact ⟨[], token, tokens, [], rfl, rfl, own⟩
    · obtain ⟨before, other, after, fields, rfl, read, clash⟩ := ih later
      refine ⟨token :: before, other, after, f :: fields, rfl, ?_, ?_⟩
      · exact ofTokensAfter_cons_eq_ok_iff.2 ⟨f, fields, first, read, rfl⟩
      · rwa [namesBackward_cons_append]

/-- Where tokens are accepted, the first of them are. -/
theorem exists_of_take (read : ofTokensAfter noTimestamps earlier tokens = .ok fields) (j : Nat) :
    ∃ first, ofTokensAfter noTimestamps earlier (tokens.take j) = .ok first := by
  cases first : ofTokensAfter noTimestamps earlier (tokens.take j) with
  | ok accepted => exact ⟨accepted, rfl⟩
  | error own =>
    have whole := ofTokensAfter_append_of_error first (tokens.drop j)
    rw [List.take_append_drop, read] at whole
    cases whole

/-- The tokens are refused with the failure of the token at position `i`: those before it are
    accepted, and it is refused for itself or does not go with the fields before it. -/
structure RefusedAt (noTimestamps : Bool) (tokens : List Text) (i : Nat) (failure : Failure) :
    Prop where
  accepted : ∀ j ≤ i, ∃ fields, ofTokens (tokens.take j) noTimestamps = .ok fields
  refused : ofTokens (tokens.take (i + 1)) noTimestamps = .error failure
  cause : ∃ token, tokens[i]? = some token ∧ (ofToken token = .error failure ∨
    ∃ f fields, ofToken token = .ok f ∧ ofTokens (tokens.take i) noTimestamps = .ok fields ∧
      refusal? noTimestamps (fields.map Field.name) f = some failure)

theorem refusedAt_of_append {before after : List Text}
    (read : ofTokens before noTimestamps = .ok fields)
    (clash : ofTokenAfter noTimestamps (namesBackward fields ++ []) token = .error failure) :
    RefusedAt noTimestamps (before ++ token :: after) before.length failure where
  accepted j within := by
    rw [List.take_append_of_le_length within]
    exact exists_of_take read j
  refused := by
    have first : (before ++ token :: after).take (before.length + 1) = before ++ [token] := by
      simp [List.take_append]
    rw [first]
    exact ofTokensAfter_append_eq_error read (ofTokensAfter_cons_eq_error_iff.2 (.inl clash))
  cause := by
    refine ⟨token, by simp, ?_⟩
    rw [List.take_left]
    rcases ofTokenAfter_eq_error_iff.1 clash with own | ⟨f, readToken, refusal⟩
    · exact .inl own
    · refine .inr ⟨f, fields, readToken, read, ?_⟩
      rwa [List.append_nil, namesBackward, refusal?_reverse] at refusal

/-- All tokens are accepted exactly if each of them is, no two of the names are the same, and none
    is that of a generated column. -/
theorem ofTokensAfter_eq_ok_iff : ofTokensAfter noTimestamps earlier tokens = .ok fields ↔
    List.Forall₂ (fun token f => ofToken token = .ok f) tokens fields ∧
      (fields.map Field.name).Nodup ∧ ∀ f ∈ fields, refusal? noTimestamps earlier f = none := by
  induction tokens generalizing earlier fields with
  | nil =>
    rw [List.forall₂_nil_left_iff]
    constructor
    · intro read
      obtain rfl := Except.ok.inj read
      simp
    · rintro ⟨rfl, -⟩
      rfl
  | cons token tokens ih =>
    rw [ofTokensAfter_cons_eq_ok_iff]
    constructor
    · rintro ⟨f, others, first, later, rfl⟩
      obtain ⟨readToken, free⟩ := ofTokenAfter_eq_ok_iff.1 first
      obtain ⟨each, distinct, apart⟩ := ih.1 later
      simp only [refusal?_cons_eq_none_iff] at apart
      refine ⟨.cons readToken each, List.nodup_cons.2 ⟨fun repeated => ?_, distinct⟩,
        List.forall_mem_cons.2 ⟨free, fun g member => (apart g member).2⟩⟩
      obtain ⟨g, member, same⟩ := List.mem_map.1 repeated
      exact (apart g member).1 same
    · rintro ⟨each, distinct, free⟩
      cases each with
      | @cons _ f _ others readToken each =>
        obtain ⟨own, apart⟩ := List.forall_mem_cons.1 free
        obtain ⟨fresh, distinct⟩ := List.nodup_cons.1 distinct
        refine ⟨f, others, ofTokenAfter_eq_ok_iff.2 ⟨readToken, own⟩, ?_, rfl⟩
        refine ih.2 ⟨each, distinct, fun g member => ?_⟩
        rw [refusal?_cons_eq_none_iff]
        exact ⟨fun same => fresh (same ▸ List.mem_map_of_mem member), apart g member⟩

/-- The tokens of a model are accepted exactly if each is read, the names differ, and none is that
    of a generated column; they are read in order. Otherwise they are refused at the first token
    that is not accepted after those before it. -/
theorem ofTokens_checked (tokens : List Text) (noTimestamps : Bool) :
    (∀ fields, ofTokens tokens noTimestamps = .ok fields ↔
      List.Forall₂ (fun token f => ofToken token = .ok f) tokens fields ∧
        (fields.map Field.name).Nodup ∧
        (noTimestamps = false → ∀ f ∈ fields, f.name ∉ timestampNames)) ∧
    ∀ failure, ofTokens tokens noTimestamps = .error failure ↔
      ∃ i, RefusedAt noTimestamps tokens i failure := by
  constructor
  · intro fields
    rw [ofTokens, ofTokensAfter_eq_ok_iff]
    have free : (∀ f ∈ fields, refusal? noTimestamps [] f = none) ↔
        (noTimestamps = false → ∀ f ∈ fields, f.name ∉ timestampNames) := by
      simp only [refusal?_eq_none_iff, List.not_mem_nil, not_false_eq_true, and_true]
      exact ⟨fun each stamped f member => each f member stamped,
        fun each f member stamped => each stamped f member⟩
    rw [free]
  · intro failure
    constructor
    · intro refused
      obtain ⟨before, token, after, fields, rfl, read, clash⟩ := exists_refused refused
      exact ⟨before.length, refusedAt_of_append read clash⟩
    · rintro ⟨i, refusedAt⟩
      rw [← List.take_append_drop (i + 1) tokens]
      exact ofTokensAfter_append_of_error refusedAt.refused _

end Field

end Groundwork
