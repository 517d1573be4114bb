import Groundwork.Project.Detection
import Groundwork.Proofs.Disk.Beside
import Groundwork.Proofs.Yaml.Flat
import Groundwork.Proofs.Yaml.Written

/-!
# Settings that are read back

The settings file gives all settings but the directory, so once it is written nothing that the
directory shows otherwise has a say. Writing it changes nothing that detection looks at besides the
file itself (`writtenAlias_of_write`, `detectDialect_of_write`), its text is read as it was written
(`return_not_mem_toYaml`), and the values of its entries take the place of all detected ones
(`override_entries`).
-/

namespace Groundwork

namespace Settings

/-- The entries of the mapping that is written for the settings. -/
def entries (s : Settings) : List (Value × Value) := [
  (.text SettingName.useSrc.key, .truth s.useSrc),
  (.text SettingName.pathAlias.key, .text s.pathAlias),
  (.text SettingName.appFolder.key, .text s.appFolder),
  (.text SettingName.dbFolder.key, .text s.dbFolder),
  (.text SettingName.dialect.key, .text s.dialect.word)]

/-- The entries with the scalars that are written for them. -/
def flatEntries (s : Settings) : List Yaml.FlatEntry := [
  .ofTruth SettingName.useSrc.key rfl s.useSrc,
  .ofText SettingName.pathAlias.key rfl s.pathAlias,
  .ofText SettingName.appFolder.key rfl s.appFolder,
  .ofText SettingName.dbFolder.key rfl s.dbFolder,
  .ofText SettingName.dialect.key rfl s.dialect.word]

/-- The text of settings is read as their entries if it is cut into the scalars that were
    written. -/
theorem parse_toYaml_of_tokens {s : Settings}
    (cut : Yaml.tokens s.toYaml = .ok (Yaml.flatTokens s.flatEntries)) :
    Yaml.parse s.toYaml = .ok (.mapping s.entries) :=
  Yaml.parse_of_tokens cut

/-- Whatever the settings are, no line end in their text is changed when it is read. -/
theorem return_not_mem_toYaml (s : Settings) : '\r' ∉ s.toYaml := by
  have keys (name : SettingName) : Yaml.needsEscape name.key = false := by
    cases name <;> rfl
  apply Yaml.return_not_mem
  unfold toYaml
  rw [Yaml.needsEscape_append, Yaml.needsEscape_append, Yaml.needsEscape_append,
    Yaml.needsEscape_append, Yaml.needsEscape_truthEntry (keys _),
    Yaml.needsEscape_textEntry (keys _), Yaml.needsEscape_textEntry (keys _),
    Yaml.needsEscape_textEntry (keys _), Yaml.needsEscape_textEntry (keys _)]
  rfl

/-- The value under the key of each setting. -/
def value (s : Settings) : SettingName → Value
  | .useSrc => .truth s.useSrc
  | .pathAlias => .text s.pathAlias
  | .appFolder => .text s.appFolder
  | .dbFolder => .text s.dbFolder
  | .dialect => .text s.dialect.word

end Settings

namespace Project

variable {disk disk' : Disk} {root : Path} {content : Text}

/-- Every setting is given by its own entry. -/
theorem givenValue_entries (s : Settings) (pathAlias : Value) (name : SettingName) :
    givenValue s.entries pathAlias name = some (name.key, s.value name) := by
  cases name <;> rfl

theorem toListed_word (dialect : Dialect) :
    (Value.text dialect.word).toListed Dialect.ofWord? = .ok dialect := by
  cases dialect <;> rfl

/-- The entries of settings take the place of everything else but the directory. -/
theorem override_entries {base s : Settings} (sameRoot : base.root = s.root) (pathAlias : Value) :
    base.override (givenValue s.entries pathAlias) = .ok s := by
  unfold Settings.override
  simp only [givenValue_entries, Settings.value, toListed_word, sameRoot]
  rfl

/-! ## What detection looks at -/

/-- What stands beside the settings file is as before once that file is written. -/
theorem agree_of_write (wrote : disk.write (root.join settingsName) content = .ok disk')
    {name : Text} (relative : Path.anchorOf name = []) (single : Path.partsOf name = [name])
    (noClimb : name ≠ "..".toList) (apart : settingsName ≠ name) :
    disk.Agree disk' (root.join name) := by
  have written : (root.join settingsName).parts = root.parts ++ [settingsName] := rfl
  have beside : (root.join name).parts = root.parts ++ [name] := by
    simp [Path.join, relative, single]
  refine Disk.agree_of_write wrote written (by decide) beside ?_ apart
  rw [List.mem_singleton]
  exact Ne.symm noClimb

theorem jsonEntries_congr {path : Path} (agree : disk.Agree disk' path) :
    jsonEntries disk' path = jsonEntries disk path := by
  unfold jsonEntries
  rw [agree.has_eq, agree.read_eq]

theorem writtenAlias_of_write (wrote : disk.write (root.join settingsName) content = .ok disk') :
    writtenAlias disk' root = writtenAlias disk root := by
  have agree : disk.Agree disk' (root.join "tsconfig.json") :=
    agree_of_write wrote rfl rfl (by decide) (by decide)
  unfold writtenAlias
  rw [jsonEntries_congr agree]

/-- The search through the tool's configuration files depends on these files only. -/
theorem toolDialectOf_congr {names : List Text}
    (agree : ∀ name ∈ names, disk.Agree disk' (root.join name)) :
    toolDialectOf disk' root names = toolDialectOf disk root names := by
  induction names with
  | nil => rfl
  | cons name names ih =>
    have here := agree name List.mem_cons_self
    have below := ih fun other member => agree other (List.mem_cons_of_mem _ member)
    unfold toolDialectOf
    rw [here.has_eq, here.read_eq, below]

theorem detectDialect_of_write (wrote : disk.write (root.join settingsName) content = .ok disk') :
    detectDialect disk' root = detectDialect disk root := by
  have agree : ∀ name ∈ toolConfigNames, disk.Agree disk' (root.join name) := by
    have names : ∀ name ∈ toolConfigNames, Path.anchorOf name = [] ∧
        Path.partsOf name = [name] ∧ name ≠ "..".toList ∧ settingsName ≠ name := by decide
    intro name member
    obtain ⟨relative, single, noClimb, apart⟩ := names name member
    exact agree_of_write wrote relative single noClimb apart
  have package : disk.Agree disk' (root.join "package.json") :=
    agree_of_write wrote rfl rfl (by decide) (by decide)
  unfold detectDialect packageDialect
  rw [toolDialectOf_congr agree, jsonEntries_congr package]

/-! ## Writing and reading back -/

/-- Settings are written where no settings file is or where one may be replaced. -/
theorem writeSettings_eq_ok {s : Settings} {force : Bool}
    (wrote : writeSettings disk s force = .ok disk') :
    disk.write (s.root.join settingsName) s.toYaml = .ok disk' := by
  unfold writeSettings at wrote
  dsimp only at wrote
  split at wrote
  · cases wrote
  · exact wrote

/-- The settings that are detected when a settings file is there and is read as entries. -/
theorem detect_of_read {entries : List (Value × Value)} {pathAlias : Value} {dialect : Dialect}
    (aliased : writtenAlias disk root = .ok pathAlias)
    (chosen : detectDialect disk root = .ok dialect)
    (read : disk.read (root.join settingsName) = .ok content)
    (parsed : Yaml.parse content = .ok (.mapping entries)) :
    detect disk root =
      ((conventions disk root dialect).override (givenValue entries pathAlias)).orRefuse := by
  have told : settingsEntries content = .ok entries := by
    unfold settingsEntries
    rw [parsed]
    rfl
  unfold detect
  rw [aliased, chosen]
  simp only [bind, Except.bind, Disk.has_of_read read, if_true, read, told]

/-- What was written is read. -/
theorem read_of_writeSettings {s : Settings} {force : Bool}
    (wrote : writeSettings disk s force = .ok disk') :
    disk'.read (s.root.join settingsName) = .ok s.toYaml := by
  have stored := writeSettings_eq_ok wrote
  obtain ⟨location, found, -, -⟩ := Disk.write_eq_ok stored
  have short := (Disk.checkNames_of_resolve found).1
  exact Disk.read_of_write stored rfl short s.return_not_mem_toYaml

/-- Settings that were written are detected, if their text is read as the mapping that it was
    written for and nothing else that detection reads is refused. -/
theorem detect_of_writeSettings {s : Settings} {force : Bool} {pathAlias : Value}
    {dialect : Dialect} (inverts : Yaml.parse s.toYaml = .ok (.mapping s.entries))
    (aliased : writtenAlias disk s.root = .ok pathAlias)
    (chosen : detectDialect disk s.root = .ok dialect)
    (wrote : writeSettings disk s force = .ok disk') : detect disk' s.root = .ok s := by
  have stored := writeSettings_eq_ok wrote
  rw [← writtenAlias_of_write stored] at aliased
  rw [← detectDialect_of_write stored] at chosen
  have sameRoot : (conventions disk' s.root dialect).root = s.root := rfl
  rw [detect_of_read aliased chosen (read_of_writeSettings wrote) inverts,
    override_entries sameRoot]
  rfl

/-- In a directory, writing without force fails exactly if something has the file's name. -/
theorem writeSettings_fails_iff {s : Settings} (directory : disk.isDirectory s.root = true)
    (checked : disk.checkNames (s.root.join settingsName) = .ok ()) :
    (∃ failure, writeSettings disk s false = .error failure) ↔
      disk.has (s.root.join settingsName) = true := by
  unfold writeSettings
  dsimp only
  cases present : disk.has (s.root.join settingsName) with
  | true => simp
  | false =>
    obtain ⟨disk', wrote⟩ := Disk.write_eq_ok_of_absent directory rfl (by decide) checked present
      s.toYaml
    simp [wrote]

/-- Settings that were written are read back, whatever the directory shows otherwise, provided that
    its files can be looked at and that the text is read as the mapping that it was written for.
    Without force, a settings file that is there already is kept: a failure brings no new disk. -/
theorem detect_writeSettings (disk : Disk) (s : Settings) :
    (Yaml.parse s.toYaml = .ok (.mapping s.entries) →
      (writtenAlias disk s.root).isOk = true → (detectDialect disk s.root).isOk = true →
      ∀ force disk', writeSettings disk s force = .ok disk' → detect disk' s.root = .ok s) ∧
    (disk.isDirectory s.root = true → disk.checkNames (s.root.join settingsName) = .ok () →
      ((∃ failure, writeSettings disk s false = .error failure) ↔
        disk.has (s.root.join settingsName) = true)) := by
  constructor
  · intro inverts aliasFound dialectFound force disk' wrote
    cases aliased : writtenAlias disk s.root with
    | error failure =>
      rw [aliased] at aliasFound
      cases aliasFound
    | ok pathAlias =>
      cases chosen : detectDialect disk s.root with
      | error failure =>
        rw [chosen] at dialectFound
        cases dialectFound
      | ok dialect => exact detect_of_writeSettings inverts aliased chosen wrote
  · intro directory checked
    exact writeSettings_fails_iff directory checked

/-- A project whose own files speak of other settings than the ones that are written. -/
def stallDisk : Disk := ⟨[
  (["stall"], .directory),
  (["stall", "src"], .directory),
  (["stall", "src", "app"], .directory),
  (["stall", "tsconfig.json"],
    .file (.text "\x7b\"compilerOptions\": \x7b\"paths\": \x7b\"~/*\": []\x7d\x7d\x7d")),
  (["stall", "package.json"], .file (.text "\x7b\"dependencies\": \x7b\"pg\": \"8\"\x7d\x7d")),
  (["stall", "brizzle.yaml"], .file (.text "alias: '#'\n"))]⟩

/-- Settings whose texts have to be quoted, or would be truth values without quotes. -/
def stallSettings : Settings where
  root := ⟨[], ["stall"]⟩
  pathAlias := "~: x"
  appFolder := "on"
  dbFolder := "it's"
  dialect := .mysql

theorem stall_settings_read_back :
    (∃ disk', writeSettings stallDisk stallSettings true = .ok disk' ∧
      detect disk' stallSettings.root = .ok stallSettings) ∧
    ∃ failure, writeSettings stallDisk stallSettings false = .error failure := by
  have cut : Yaml.tokens stallSettings.toYaml
      = .ok (Yaml.flatTokens stallSettings.flatEntries) := by decide +kernel
  have aliasFound : (writtenAlias stallDisk stallSettings.root).isOk = true := by decide +kernel
  have dialectFound : (detectDialect stallDisk stallSettings.root).isOk = true := by decide +kernel
  have wrote : writeSettings stallDisk stallSettings true
      = .ok (stallDisk.set ["stall", "brizzle.yaml"] (.file (.text stallSettings.toYaml))) := rfl
  have inverts := Settings.parse_toYaml_of_tokens cut
  have both := detect_writeSettings stallDisk stallSettings
  constructor
  · exact ⟨_, wrote, both.1 inverts aliasFound dialectFound _ _ wrote⟩
  · exact (both.2 (by decide) rfl).2 (by decide)

end Project

end Groundwork
