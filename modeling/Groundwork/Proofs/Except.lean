import Groundwork.Data.Record

/-!
# Computations that may fail

What is known about the steps of a computation that came to a result, and about the parts of a
record that was filled without issues.
-/

namespace Groundwork

variable {ε α β : Type} {x : Except ε α}

/-- Two steps came to a result exactly if the first one did, and the second one did with it. -/
theorem bind_eq_ok_iff {next : α → Except ε β} {b : β} :
    (x >>= next) = .ok b ↔ ∃ a, x = .ok a ∧ next a = .ok b := by
  cases x with
  | error failure => simp [bind, Except.bind]
  | ok a => simp [bind, Except.bind]

namespace Checked

/-- A record was filled exactly if all of its components were. -/
theorem seq_eq_ok_iff {f : Checked (α → β)} {x : Checked α} {b : β} :
    (f <*> x) = Except.ok b ↔ ∃ g a, f = Except.ok g ∧ x = Except.ok a ∧ g a = b := by
  cases f with
  | error issues =>
    cases x with
    | error more => exact iff_of_false nofun (by rintro ⟨g, a, ⟨⟩, -⟩)
    | ok a => exact iff_of_false nofun (by rintro ⟨g, a, ⟨⟩, -⟩)
  | ok g =>
    cases x with
    | error issues => exact iff_of_false nofun (by rintro ⟨g, a, -, ⟨⟩, -⟩)
    | ok a =>
      constructor
      · intro filled
        exact ⟨g, a, rfl, rfl, Except.ok.inj filled⟩
      · rintro ⟨g, a, ⟨⟩, ⟨⟩, rfl⟩
        rfl

theorem map_eq_ok_iff {g : α → β} {x : Checked α} {b : β} :
    (g <$> x) = Except.ok b ↔ ∃ a, x = Except.ok a ∧ g a = b := by
  have same : (g <$> x) = (Pure.pure g <*> x : Checked β) := rfl
  rw [same, seq_eq_ok_iff]
  constructor
  · rintro ⟨g, a, ⟨⟩, found, rfl⟩
    exact ⟨a, found, rfl⟩
  · rintro ⟨a, found, rfl⟩
    exact ⟨g, a, rfl, found, rfl⟩

theorem orRefuse_eq_ok_iff {x : Checked α} {a : α} : x.orRefuse = .ok a ↔ x = Except.ok a := by
  cases x with
  | error issues => exact iff_of_false nofun nofun
  | ok b =>
    constructor
    · rintro ⟨⟩
      rfl
    · rintro ⟨⟩
      rfl

end Checked

end Groundwork
