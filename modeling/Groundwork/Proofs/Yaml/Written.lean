import Groundwork.Yaml.Printer
import Mathlib.Data.List.SplitBy
import Mathlib.Tactic.Common

/-!
# Written scalars

Whatever characters a text has, the scalar that is written for it has line feeds and printable
characters of ASCII only (`needsEscape_writeText`): it is the same in every encoding of files, and
no line end in it is changed when it is read.
-/

namespace Groundwork.Yaml

variable {s t : Text} {c : Char}

/-! ## Characters that stand for themselves -/

@[simp] theorem needsEscape_nil : needsEscape [] = false := rfl

@[simp] theorem needsEscape_append (s t : Text) :
    needsEscape (s ++ t) = (needsEscape s || needsEscape t) := List.any_append

theorem needsEscape_cons (c : Char) (s : Text) :
    needsEscape (c :: s) = (needsEscape [c] || needsEscape s) :=
  needsEscape_append [c] s

/-- The backslash is printable. -/
@[simp] theorem needsEscape_backslash (s : Text) : needsEscape ('\\' :: s) = needsEscape s :=
  needsEscape_cons _ s

theorem needsEscape_eq_false_iff : needsEscape s = false ↔ ∀ c ∈ s, needsEscape [c] = false := by
  simp [needsEscape]

theorem return_not_mem (plain : needsEscape s = false) : '\r' ∉ s := by
  intro inside
  have ends := needsEscape_eq_false_iff.1 plain '\r' inside
  revert ends
  decide

/-! ## Runs -/

/-- Every run of a text is a part of it. -/
theorem needsEscape_of_mem_runs (plain : needsEscape s = false) {run : Text}
    (inside : run ∈ runs s) : needsEscape run = false := by
  rw [needsEscape_eq_false_iff] at plain ⊢
  intro c member
  have joined : (runs s).flatten = s := List.flatten_splitBy _ s
  apply plain c
  rw [← joined]
  exact List.mem_flatten.2 ⟨run, inside, member⟩

/-- Doubled quotes are no new characters. -/
theorem needsEscape_doubled (plain : needsEscape s = false) :
    needsEscape (s.flatMap fun c => if c = '\'' then "''" else [c]) = false := by
  rw [needsEscape_eq_false_iff] at plain ⊢
  intro d member
  obtain ⟨c, inside, among⟩ := List.mem_flatMap.1 member
  by_cases quote : c = '\''
  · rw [if_pos quote] at among
    have same : d = '\'' := by simpa using among
    rw [same]
    rfl
  · rw [if_neg quote, List.mem_singleton] at among
    rw [among]
    exact plain c inside

theorem needsEscape_writeRuns (quoted : Bool) {column : Nat} {first : Bool} {rs : List Text}
    (plain : ∀ run ∈ rs, needsEscape run = false) :
    needsEscape (writeRuns quoted column first rs) = false := by
  have indented : needsEscape hangingIndent = false := by decide
  induction rs generalizing column first with
  | nil => rfl
  | cons run rest ih =>
    have here : needsEscape run = false := plain run List.mem_cons_self
    have below {column : Nat} {first : Bool} :
        needsEscape (writeRuns quoted column first rest) = false :=
      ih fun other inside => plain other (List.mem_cons_of_mem _ inside)
    unfold writeRuns
    split
    · split
      · rw [needsEscape_append, indented, below]
        rfl
      · rw [needsEscape_append, here, below]
        rfl
    · rw [needsEscape_append, needsEscape_append, here, indented, below]
      rfl
    · dsimp only
      rw [needsEscape_append, below, Bool.or_false]
      split
      · exact needsEscape_doubled here
      · exact here

/-! ## Escapes -/

theorem needsEscape_digits (n : Nat) :
    needsEscape ((Nat.toDigits 16 n).map Char.toUpper) = false := by
  have digit : ∀ d < 16, needsEscape [(Nat.digitChar d).toUpper] = false := by decide
  induction n using Nat.strongRecOn with
  | ind n ih =>
    rw [Nat.toDigits_eq_if (by decide)]
    by_cases small : n < 16
    · rw [if_pos small]
      exact digit n small
    · rw [if_neg small, List.map_append, needsEscape_append, ih (n / 16) (by omega)]
      exact digit (n % 16) (by omega)

theorem needsEscape_hexText (digits n : Nat) : needsEscape (hexText digits n) = false := by
  unfold hexText
  dsimp only
  rw [needsEscape_append, needsEscape_digits, Bool.or_false, needsEscape_eq_false_iff]
  intro c inside
  rw [(List.mem_replicate.1 inside).2]
  rfl

/-- An escape consists of characters that need none. -/
theorem needsEscape_escaped {written : Text} (escapes : escaped? c = some written) :
    needsEscape written = false := by
  have letters : ∀ entry ∈ letterEscapes, needsEscape ['\\', entry.2] = false := by decide
  unfold escaped? at escapes
  split at escapes
  · next letter listed =>
    obtain rfl := Option.some.inj escapes
    rw [List.lookup_eq_some_iff] at listed
    obtain ⟨front, back, split, -⟩ := listed
    exact letters (c, letter) (split ▸ List.mem_append_right _ List.mem_cons_self)
  · split at escapes
    · cases escapes
    · split at escapes
      · obtain rfl := Option.some.inj escapes
        rw [needsEscape_append, needsEscape_hexText]
        rfl
      · split at escapes
        · obtain rfl := Option.some.inj escapes
          rw [needsEscape_append, needsEscape_hexText]
          rfl
        · obtain rfl := Option.some.inj escapes
          rw [needsEscape_append, needsEscape_hexText]
          rfl

/-- A character without an escape needs none. -/
theorem needsEscape_of_not_escaped (stays : escaped? c = none) : needsEscape [c] = false := by
  unfold escaped? at stays
  split at stays
  · cases stays
  · split at stays
    · next printable =>
      unfold needsEscape
      simp only [List.any_cons, List.any_nil, Bool.or_false, Bool.not_eq_false', Bool.or_eq_true]
      exact .inr printable
    · split at stays
      · cases stays
      · split at stays <;> cases stays

theorem needsEscape_writeDouble (column pending : Nat) (first : Bool) (s : Text) :
    needsEscape (writeDouble column pending first s) = false := by
  have indented : needsEscape hangingIndent = false := by decide
  induction s generalizing column pending first with
  | nil => rfl
  | cons c s ih =>
    unfold writeDouble
    dsimp only
    split
    · next written escapes =>
      have here := needsEscape_escaped escapes
      repeat' split
      all_goals simp [here, indented, ih]
    · next stays =>
      have here (t : Text) : needsEscape (c :: t) = needsEscape t := by
        rw [needsEscape_cons, needsEscape_of_not_escaped stays, Bool.false_or]
      repeat' split
      all_goals simp [here, indented, ih]

/-! ## Entries -/

/-- Every text is written in characters that need no escape. -/
theorem needsEscape_writeText (column : Nat) (s : Text) :
    needsEscape (writeText column s) = false := by
  unfold writeText
  split
  · next plain =>
    have unescaped : needsEscape s = false := by
      simp only [isPlain, Bool.and_eq_true, Bool.not_eq_true'] at plain
      exact plain.1.1.1.1.2
    rw [needsEscape_cons, needsEscape_writeRuns false fun _ => needsEscape_of_mem_runs unescaped]
    rfl
  · split
    · next single =>
      have unescaped : needsEscape s = false := by
        simp only [isSingleQuotable, Bool.and_eq_true, Bool.not_eq_true'] at single
        exact single.1.1
      rw [needsEscape_append, needsEscape_append,
        needsEscape_writeRuns true fun _ => needsEscape_of_mem_runs unescaped]
      rfl
    · rw [needsEscape_append, needsEscape_append, needsEscape_writeDouble]
      rfl

theorem needsEscape_textEntry {key : Text} (plain : needsEscape key = false) (value : Text) :
    needsEscape (textEntry key value) = false := by
  unfold textEntry
  rw [needsEscape_append, needsEscape_append, needsEscape_append, plain, needsEscape_writeText]
  rfl

theorem needsEscape_truthEntry {key : Text} (plain : needsEscape key = false) (value : Bool) :
    needsEscape (truthEntry key value) = false := by
  unfold truthEntry
  rw [needsEscape_append, needsEscape_append, needsEscape_append, plain]
  cases value <;> rfl

end Groundwork.Yaml
