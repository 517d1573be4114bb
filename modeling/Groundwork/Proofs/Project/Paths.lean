import Groundwork.Project.Detection
import Groundwork.Proofs.Except
import Groundwork.Text.Lemmas

/-!
# The alias of path mappings

The paths of the compiler's configuration may be any value. Those that count as absent, or are a
text, give the usual alias. The keys of a mapping and the items of a list are walked along up to the
first wildcard, which has to be a text without missing characters, and all values before it have to
be texts. Nothing else gives an alias (`writtenPathsAlias_text_iff`).
-/

namespace Groundwork.Project

variable {entries : List (Value × Value)}

/-- The alias that a wildcard stands for. -/
def aliasOf? : Value → Option Text
  | .text key => Text.before? "/*" key
  | _ => none

/-- The alias of the first wildcard, and `@` otherwise. -/
def firstAlias (keys : List Value) : Text := (keys.findSome? aliasOf?).getD "@"

/-- The alias that paths give. -/
def pathsAlias (paths : Value) : Text :=
  match paths with
  | .mapping entries => firstAlias (entries.map Prod.fst)
  | .list items => firstAlias items
  | _ => "@"

/-- The walk along keys ends here: at a wildcard, or at a value that is no text. -/
def endsWalk : Value → Bool
  | .text key | .brokenText key => Text.endsWith "/*" key
  | _ => true

/-- If the walk along keys ends before the last of them, it is at a text without missing
    characters. -/
def EndsWell (keys : List Value) : Prop :=
  ∀ value, keys.find? endsWalk = some value → ∃ key, value = .text key

/-- The paths can be walked along. -/
inductive Passable : Value → Prop
  | hollow {paths : Value} (absent : paths.isHollow = true) : Passable paths
  | text (t : Text) : Passable (.text t)
  | brokenText (t : Text) : Passable (.brokenText t)
  | list {items : List Value} (ends : EndsWell items) : Passable (.list items)
  | mapping {entries : List (Value × Value)} (ends : EndsWell (entries.map Prod.fst)) :
    Passable (.mapping entries)

/-- The alias that paths give, as it is written. -/
def writtenPathsAlias (paths : Value) : Except Failure Value :=
  if paths.isHollow then .ok (.text "@")
  else do return (← firstWildcard (← members paths)).getD (.text "@")

/-! ## Walking along keys -/

/-- A key that does not end the walk is passed over. -/
theorem firstWildcard_cons {key : Value} (goesOn : endsWalk key = false) (keys : List Value) :
    firstWildcard (key :: keys) = firstWildcard keys ∧ aliasOf? key = none := by
  cases key with
  | text t =>
    have noAlias : Text.before? "/*" t = none := Text.endsWith_eq_false_iff.1 goesOn
    exact ⟨by rw [firstWildcard, noAlias], noAlias⟩
  | brokenText t =>
    have noAlias : Text.before? "/*" t = none := Text.endsWith_eq_false_iff.1 goesOn
    exact ⟨by rw [firstWildcard, noAlias], rfl⟩
  | _ => cases goesOn

/-- A key that ends the walk gives a text exactly if it is one. -/
theorem firstWildcard_cons_text_iff {key : Value} (ends : endsWalk key = true)
    (keys : List Value) (t : Text) :
    (∃ found, firstWildcard (key :: keys) = .ok found ∧
        (found.getD (.text "@")).toText = .ok t) ↔
      (∃ written, key = .text written) ∧ aliasOf? key = some t := by
  cases key with
  | text written =>
    obtain ⟨pathAlias, wildcard⟩ := Option.isSome_iff_exists.1 ends
    rw [firstWildcard, wildcard, show aliasOf? (.text written) = some pathAlias from wildcard]
    simp [Value.toText]
  | brokenText written =>
    obtain ⟨pathAlias, wildcard⟩ := Option.isSome_iff_exists.1 ends
    rw [firstWildcard, wildcard]
    simp [Value.toText]
  | _ => simp [firstWildcard]

/-- Keys give a text exactly if the walk along them ends well. -/
theorem firstWildcard_text_iff {keys : List Value} {t : Text} :
    (∃ found, firstWildcard keys = .ok found ∧ (found.getD (.text "@")).toText = .ok t) ↔
      EndsWell keys ∧ t = firstAlias keys := by
  -- Keys that are passed over say nothing on either side; the first other key decides both.
  induction keys with
  | nil => simp [firstWildcard, EndsWell, firstAlias, Value.toText, eq_comm]
  | cons key keys ih =>
    unfold EndsWell firstAlias at ih ⊢
    rw [List.findSome?_cons]
    cases ends : endsWalk key with
    | false =>
      obtain ⟨passed, noAlias⟩ := firstWildcard_cons ends keys
      rw [passed, ih, noAlias, List.find?_cons_of_neg (by simp [ends])]
    | true =>
      rw [firstWildcard_cons_text_iff ends, List.find?_cons_of_pos ends]
      constructor
      · rintro ⟨⟨written, rfl⟩, named⟩
        rw [named]
        exact ⟨fun value same => ⟨written, (Option.some.inj same).symm⟩, rfl⟩
      · rintro ⟨well, rfl⟩
        obtain ⟨written, rfl⟩ := well key rfl
        obtain ⟨pathAlias, wildcard⟩ := Option.isSome_iff_exists.1 ends
        rw [show aliasOf? (.text written) = some pathAlias from wildcard]
        exact ⟨⟨written, rfl⟩, rfl⟩

/-! ## Shapes of paths -/

theorem pathsAlias_of_isHollow {paths : Value} (hollow : paths.isHollow = true) :
    pathsAlias paths = "@" := by
  cases paths with
  | list items => rw [List.isEmpty_iff.1 hollow]; rfl
  | mapping entries => rw [List.isEmpty_iff.1 hollow]; rfl
  | _ => rfl

/-- No character is a wildcard. -/
theorem firstWildcard_characters (t : Text) :
    firstWildcard (t.map fun c => .text [c]) = .ok none := by
  induction t with
  | nil => rfl
  | cons c t ih =>
    have goesOn : endsWalk (.text [c]) = false := by
      rw [endsWalk, Bool.eq_false_iff, Ne, Text.endsWith_iff]
      intro ends
      have short : 2 ≤ 1 := ends.length_le
      omega
    rw [List.map_cons, (firstWildcard_cons goesOn _).1, ih]

theorem passable_list_iff {items : List Value} : Passable (.list items) ↔ EndsWell items := by
  refine ⟨fun passable => ?_, Passable.list⟩
  cases passable with
  | hollow empty =>
    rw [List.isEmpty_iff.1 empty]
    exact nofun
  | list ends => exact ends

theorem passable_mapping_iff :
    Passable (.mapping entries) ↔ EndsWell (entries.map Prod.fst) := by
  refine ⟨fun passable => ?_, Passable.mapping⟩
  cases passable with
  | hollow empty =>
    rw [List.isEmpty_iff.1 empty]
    exact nofun
  | mapping ends => exact ends

/-- The alias that a walk along keys leads to. -/
theorem walk_text_iff {keys : List Value} {t : Text} :
    (∃ written, (do return (← firstWildcard keys).getD (.text "@")) = Except.ok written ∧
        written.toText = .ok t) ↔
      EndsWell keys ∧ t = firstAlias keys := by
  rw [← firstWildcard_text_iff]
  simp only [bind_eq_ok_iff]
  constructor
  · rintro ⟨written, ⟨found, walked, chosen⟩, isText⟩
    exact ⟨found, walked, Except.ok.inj chosen ▸ isText⟩
  · rintro ⟨found, walked, isText⟩
    exact ⟨_, ⟨found, walked, rfl⟩, isText⟩

theorem walk_characters (t : Text) :
    (do return (← firstWildcard (t.map fun c => .text [c])).getD (.text "@")) =
      (Except.ok (.text "@") : Except Failure Value) := by
  rw [firstWildcard_characters]
  rfl

/-- Paths that are walked along give the alias that the walk leads to. -/
theorem writtenPathsAlias_text_iff {paths : Value} {t : Text} :
    (∃ written, writtenPathsAlias paths = .ok written ∧ written.toText = .ok t) ↔
      Passable paths ∧ t = pathsAlias paths := by
  have usual (same : writtenPathsAlias paths = .ok (.text "@")) (passable : Passable paths)
      (plain : pathsAlias paths = "@") :
      (∃ written, writtenPathsAlias paths = .ok written ∧ written.toText = .ok t) ↔
        Passable paths ∧ t = pathsAlias paths := by
    rw [same, plain]
    simp [passable, Value.toText, eq_comm]
  by_cases hollow : paths.isHollow = true
  · exact usual (if_pos hollow) (.hollow hollow) (pathsAlias_of_isHollow hollow)
  have walked : writtenPathsAlias paths =
      do return (← firstWildcard (← members paths)).getD (.text "@") := if_neg hollow
  cases paths with
  | list items =>
    rw [walked, passable_list_iff]
    exact walk_text_iff
  | mapping entries =>
    rw [walked, passable_mapping_iff]
    exact walk_text_iff
  | text s =>
    rw [walked] at usual ⊢
    exact usual (walk_characters s) (.text s) rfl
  | brokenText s =>
    rw [walked] at usual ⊢
    exact usual (walk_characters s) (.brokenText s) rfl
  | _ =>
    rw [walked]
    refine iff_of_false nofun ?_
    rintro ⟨passable, -⟩
    cases passable with
    | hollow absent => exact hollow absent

end Groundwork.Project
