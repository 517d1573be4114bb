import Groundwork.Text.Case

/-!
# Characters that letter case leaves alone

Changing the case of a character never brings in a character before `A`: no white space, digit,
bracket or other mark of source text. So such a character stands in a converted text only if it
stands in the text itself.
-/

namespace Groundwork.Text

/-- Every counterpart in a row is a character from `A` on. -/
def rowBeyondMarks (row : Nat × Nat × Nat × Int) : Bool :=
  let (first, last, _, shift) := row
  65 ≤ (first : Int) + shift && (decide ((last : Int) + shift < 0xD800)
    || (0xDFFF < (first : Int) + shift && (last : Int) + shift < 0x110000))

/-- Every counterpart in a row of several characters is a character from `A` on. -/
def expansionBeyondMarks (row : Nat × List Nat) : Bool :=
  row.2.all fun code => 65 ≤ code && code < 0xD800

theorem upperRows_beyondMarks : upperRows.all rowBeyondMarks = true := by decide +kernel

theorem lowerRows_beyondMarks : lowerRows.all rowBeyondMarks = true := by decide +kernel

theorem upperExpansions_beyondMarks : upperExpansions.all expansionBeyondMarks = true := by
  decide +kernel

theorem lowerExpansions_beyondMarks : lowerExpansions.all expansionBeyondMarks = true := by
  decide +kernel

theorem toNat_ofNat_of_valid {n : Nat} (valid : n < 0xD800 ∨ 0xDFFF < n ∧ n < 0x110000) :
    (Char.ofNat n).toNat = n := by
  have isValid : n.isValidChar := by
    rcases valid with low | ⟨above, below⟩
    · exact .inl (by omega)
    · exact .inr ⟨above, below⟩
  rw [Char.ofNat, dif_pos isValid]
  rfl

theorem shifted_beyondMarks {rows : List (Nat × Nat × Nat × Int)} {n : Nat}
    (beyond : rows.all rowBeyondMarks = true) (wide : 128 ≤ n)
    (valid : n < 0xD800 ∨ 0xDFFF < n ∧ n < 0x110000) :
    65 ≤ (Char.ofNat (shifted rows n)).toNat := by
  unfold shifted
  split
  · next first last step shift found =>
    have covers := List.find?_some found
    have row := List.all_eq_true.1 beyond _ (List.mem_of_find?_eq_some found)
    simp only [rowBeyondMarks, Bool.and_eq_true, Bool.or_eq_true, decide_eq_true_eq] at row covers
    rw [toNat_ofNat_of_valid (by omega)]
    omega
  · rw [toNat_ofNat_of_valid valid]
    omega

/-- A character outside ASCII has no counterpart before `A`. -/
theorem wideCounterpart_beyondMarks {expansions : List (Nat × List Nat)}
    {rows : List (Nat × Nat × Nat × Int)} (several : expansions.all expansionBeyondMarks = true)
    (single : rows.all rowBeyondMarks = true) {c x : Char} (wide : 128 ≤ c.toNat)
    (member : x ∈ wideCounterpart expansions rows c) : 65 ≤ x.toNat := by
  unfold wideCounterpart at member
  split at member
  · next codes found =>
    obtain ⟨code, listed, rfl⟩ := List.mem_map.1 member
    obtain ⟨above, below, table, -⟩ := List.lookup_eq_some_iff.1 found
    have row := List.all_eq_true.1 several (c.toNat, codes) (by simp [table])
    have bounds := List.all_eq_true.1 row code listed
    simp only [Bool.and_eq_true, decide_eq_true_eq] at bounds
    rw [toNat_ofNat_of_valid (by omega)]
    omega
  · obtain rfl := List.mem_singleton.1 member
    refine shifted_beyondMarks single wide ?_
    have valid := c.valid
    simp only [UInt32.isValidChar, Nat.isValidChar] at valid
    simp only [Char.toNat]
    omega

theorem eq_of_toUpper_before {c x : Char} (mark : x.toNat < 65) (same : c.toUpper = x) : x = c := by
  unfold Char.toUpper at same
  split at same
  · next lower =>
    subst same
    simp only [Char.toNat] at mark
    simp [UInt32.le_iff_toNat_le, UInt32.toNat_add] at lower mark
    omega
  · exact same.symm

theorem eq_of_toLower_before {c x : Char} (mark : x.toNat < 65) (same : c.toLower = x) : x = c := by
  unfold Char.toLower at same
  split at same
  · next upper =>
    subst same
    simp only [Char.toNat] at mark
    simp [UInt32.le_iff_toNat_le, UInt32.toNat_add] at upper mark
    omega
  · exact same.symm

theorem mem_upperChar {c x : Char} (mark : x.toNat < 65) (member : x ∈ upperChar c) : x = c := by
  unfold upperChar at member
  split at member
  · exact eq_of_toUpper_before mark (List.mem_singleton.1 member).symm
  · have := wideCounterpart_beyondMarks upperExpansions_beyondMarks upperRows_beyondMarks
      (by omega) member
    omega

theorem mem_lowerChar {c x : Char} (mark : x.toNat < 65) (member : x ∈ lowerChar c) : x = c := by
  unfold lowerChar at member
  split at member
  · exact eq_of_toLower_before mark (List.mem_singleton.1 member).symm
  · have := wideCounterpart_beyondMarks lowerExpansions_beyondMarks lowerRows_beyondMarks
      (by omega) member
    omega

theorem mem_capitalise {x : Char} (mark : x.toNat < 65) {s : Text} (member : x ∈ capitalise s) :
    x ∈ s := by
  cases s with
  | nil => exact member
  | cons c s =>
    rcases List.mem_append.1 member with here | later
    · simp [mem_upperChar mark here]
    · exact List.mem_cons_of_mem _ later

theorem mem_uncapitalise {x : Char} (mark : x.toNat < 65) {s : Text}
    (member : x ∈ uncapitalise s) : x ∈ s := by
  cases s with
  | nil => exact member
  | cons c s =>
    rcases List.mem_append.1 member with here | later
    · simp [mem_lowerChar mark here]
    · exact List.mem_cons_of_mem _ later

theorem mem_lower {x : Char} (mark : x.toNat < 65) {s : Text} (member : x ∈ lower s) : x ∈ s := by
  have after (before : Text) (within : x ∈ lowerAfter before s) : x ∈ s := by
    clear member
    induction s generalizing before with
    | nil => exact within
    | cons c s ih =>
      rw [lowerAfter] at within
      rcases List.mem_append.1 within with here | later
      · split at here
        · have sigma : x = 'ς' ∨ x = 'σ' := by
            split at here
            · exact .inl (List.mem_singleton.1 here)
            · exact .inr (List.mem_singleton.1 here)
          rcases sigma with rfl | rfl <;> exact absurd mark (by decide)
        · simp [mem_lowerChar mark here]
      · exact List.mem_cons_of_mem _ (ih _ later)
  exact after [] member

theorem upperChar_of_ascii {c : Char} (ascii : c.toNat < 128) : upperChar c = [c.toUpper] :=
  if_pos ascii

theorem lowerChar_of_ascii {c : Char} (ascii : c.toNat < 128) : lowerChar c = [c.toLower] :=
  if_pos ascii

/-- A text of ASCII is lowered character by character. -/
theorem lower_of_ascii {s : Text} (ascii : ∀ c ∈ s, c.toNat < 128) :
    lower s = s.map Char.toLower := by
  have after (before : Text) : lowerAfter before s = s.map Char.toLower := by
    induction s generalizing before with
    | nil => rfl
    | cons c s ih =>
      have first := ascii c (by simp)
      have noSigma : c ≠ 'Σ' := by
        rintro rfl
        exact absurd first (by decide)
      have rest := ih (fun d member => ascii d (List.mem_cons_of_mem _ member)) (c :: before)
      simp [lowerAfter, noSigma, lowerChar_of_ascii first, rest]
  exact after []

/-- A small letter of ASCII at the end stays. -/
theorem getLast?_lower {c : Char} {s : Text} (ascii : c.toNat < 128) (small : c.toLower = c) :
    (lower (s ++ [c])).getLast? = some c := by
  have noSigma : c ≠ 'Σ' := by
    rintro rfl
    exact absurd ascii (by decide)
  have after (before : Text) : (lowerAfter before (s ++ [c])).getLast? = some c := by
    induction s generalizing before with
    | nil => simp [lowerAfter, noSigma, lowerChar, ascii, small]
    | cons d s ih =>
      rw [List.cons_append, lowerAfter, List.getLast?_append, ih]
      rfl
  exact after []

end Groundwork.Text
