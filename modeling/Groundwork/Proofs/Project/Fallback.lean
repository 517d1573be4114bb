import Groundwork.Proofs.Disk.Reading
import Groundwork.Proofs.Project.Paths

/-!
# Settings without a settings file

What the files of a project show when they are read with goodwill: a file that is absent, that is no
JSON or whose document has another shape shows nothing (`shown`). Detection comes to these settings
only where the walk through the documents is prepared for the shapes that it meets. It fails at some
of them, and takes an alias from a list as well (`detect_eq_shown_iff`).
-/

namespace Groundwork.Project

open Value (lookup?)

variable {disk : Disk} {root path : Path} {entries : List (Value × Value)}

/-! ## What files show -/

/-- Where something stands, it is a file of text. -/
def IsLegible (disk : Disk) (path : Path) : Prop :=
  disk.has path = true → ∃ t, disk.read path = .ok t

/-- A project without a settings file, whose other files can be read. -/
structure Unset (disk : Disk) (root : Path) : Prop where
  settings : disk.has (root.join settingsName) = false
  compiler : IsLegible disk (root.join "tsconfig.json")
  packages : IsLegible disk (root.join "package.json")
  tool : ∀ name ∈ toolConfigNames, IsLegible disk (root.join name)

/-- The document of a JSON file, or why it has none; nothing if the file is absent. -/
def document? (disk : Disk) (path : Path) : Option (Except Json.Fault Value) :=
  (disk.read path).toOption.map fun t => Json.parse (Json.strip t)

/-- The entries of a JSON file, if it is one and its document is a mapping. -/
def shownEntries (disk : Disk) (path : Path) : List (Value × Value) :=
  match document? disk path with
  | some (.ok (.mapping entries)) => entries
  | _ => []

/-- The entries under a key, if they are a mapping. -/
def shownPart (entries : List (Value × Value)) (key : Text) : List (Value × Value) :=
  match lookup? entries key with
  | some (.mapping part) => part
  | _ => []

/-- The options of the compiler's configuration. -/
def shownOptions (disk : Disk) (root : Path) : List (Value × Value) :=
  shownPart (shownEntries disk (root.join "tsconfig.json")) "compilerOptions"

/-- The alias of the first path mapping that covers a whole directory. -/
def shownAlias (disk : Disk) (root : Path) : Text :=
  firstAlias ((shownPart (shownOptions disk root) "paths").map Prod.fst)

/-- The dialect of the first configuration file of the database tool that names one. -/
def shownToolDialect? (disk : Disk) (root : Path) (names : List Text) : Option Dialect :=
  names.findSome? fun name => (disk.read (root.join name)).toOption.bind configuredDialect?

/-- The dialect that packages speak of. -/
def dialectOf (packages : List (Value × Value)) : Dialect :=
  let isInstalled (name : Text) : Bool := (lookup? packages name).isSome
  if postgresqlPackages.any isInstalled then .postgresql
  else if mysqlPackages.any isInstalled then .mysql
  else .sqlite

/-- The dialect of the installed packages. -/
def shownPackageDialect (disk : Disk) (root : Path) : Dialect :=
  let entries := shownEntries disk (root.join "package.json")
  dialectOf (shownPart entries "dependencies" ++ shownPart entries "devDependencies")

/-- The settings that the files of a project show, save for the settings file. -/
def shown (disk : Disk) (root : Path) : Settings :=
  { conventions disk root
      ((shownToolDialect? disk root toolConfigNames).getD (shownPackageDialect disk root)) with
    pathAlias := shownAlias disk root }

/-! ## What detection is prepared for -/

/-- No number of the file has too many digits, and nothing is nested too deeply in it. -/
def WithinLimits (disk : Disk) (path : Path) : Prop :=
  ∀ fault, document? disk path = some (.error fault) → fault = .malformed

/-- What stands under a key is a mapping. -/
def IsMappingAt (entries : List (Value × Value)) (key : Text) : Prop :=
  ∀ value, lookup? entries key = some value → ∃ part, value = .mapping part

/-- What stands under the key of the paths; null if it is absent. -/
def shownPaths (disk : Disk) (root : Path) : Value :=
  (lookup? (shownOptions disk root) "paths").getD .null

/-- The compiler's configuration holds nothing that detection fails at. -/
structure CompilerPassable (disk : Disk) (root : Path) : Prop where
  document : WithinLimits disk (root.join "tsconfig.json")
  options : IsMappingAt (shownEntries disk (root.join "tsconfig.json")) "compilerOptions"
  paths : Passable (shownPaths disk root)

/-- The package file holds nothing that detection fails at. -/
structure PackagesPassable (disk : Disk) (root : Path) : Prop where
  document : WithinLimits disk (root.join "package.json")
  dependencies : IsMappingAt (shownEntries disk (root.join "package.json")) "dependencies"
  development : IsMappingAt (shownEntries disk (root.join "package.json")) "devDependencies"

/-- The files hold nothing that detection fails at. The package file is only asked if no
    configuration file of the database tool names a dialect. -/
structure FilesPassable (disk : Disk) (root : Path) : Prop where
  compiler : CompilerPassable disk root
  packages : shownToolDialect? disk root toolConfigNames = none → PackagesPassable disk root

/-- The paths are a list, and its first wildcard has another alias than the usual one. -/
def ListsAlias (disk : Disk) (root : Path) : Prop :=
  ∃ items, shownPaths disk root = .list items ∧ firstAlias items ≠ "@"

/-! ## Reading the files -/

theorem isLegible_cases (legible : IsLegible disk path) :
    (∃ t, disk.has path = true ∧ disk.read path = .ok t) ∨
      disk.has path = false ∧ (disk.read path).toOption = none := by
  cases present : disk.has path with
  | true =>
    obtain ⟨t, read⟩ := legible present
    exact .inl ⟨t, rfl, read⟩
  | false =>
    cases read : disk.read path with
    | error failure => exact .inr ⟨rfl, rfl⟩
    | ok t =>
      rw [Disk.has_of_read read] at present
      cases present

/-- Of all that a JSON file may hold, only what is beyond a limit is an error. -/
theorem jsonEntries_eq (legible : IsLegible disk path) :
    jsonEntries disk path =
      match document? disk path with
      | some (.ok (.mapping entries)) => .ok entries
      | some (.error (.tooManyDigits count)) => .error (.tooManyDigits count)
      | some (.error (.tooDeep isList)) => .error (.nestedTooDeeply isList)
      | _ => .ok [] := by
  unfold jsonEntries document?
  rcases isLegible_cases legible with ⟨t, present, read⟩ | ⟨absent, unread⟩
  · rw [present, read, Except.toOption, Option.map_some]
    simp only [bind, Except.bind]
    cases Json.parse (Json.strip t) with
    | error fault => cases fault <;> rfl
    | ok value => cases value <;> rfl
  · rw [absent, unread]
    rfl

theorem jsonEntries_eq_ok_iff (legible : IsLegible disk path) :
    jsonEntries disk path = .ok entries ↔
      WithinLimits disk path ∧ entries = shownEntries disk path := by
  rw [jsonEntries_eq legible]
  unfold WithinLimits shownEntries
  cases document? disk path with
  | none => simp [eq_comm]
  | some document =>
    cases document with
    | error fault => cases fault <;> simp [eq_comm]
    | ok value => cases value <;> simp [eq_comm]

theorem dependencies_eq_ok_iff {key : Text} {packages : List (Value × Value)} :
    dependencies entries key = .ok packages ↔
      IsMappingAt entries key ∧ packages = shownPart entries key := by
  unfold dependencies IsMappingAt shownPart
  cases lookup? entries key with
  | none => simp [eq_comm]
  | some value => cases value <;> simp [eq_comm]

/-! ## The dialect -/

/-- Of the tool's configuration files the first one that names a dialect counts. -/
theorem toolDialectOf_eq {names : List Text}
    (legible : ∀ name ∈ names, IsLegible disk (root.join name)) :
    toolDialectOf disk root names = .ok (shownToolDialect? disk root names) := by
  induction names with
  | nil => rfl
  | cons name names ih =>
    have later := ih fun other member => legible other (List.mem_cons_of_mem _ member)
    unfold shownToolDialect? at later ⊢
    unfold toolDialectOf
    rw [List.findSome?_cons, later]
    rcases isLegible_cases (legible name List.mem_cons_self) with
      ⟨t, present, read⟩ | ⟨absent, unread⟩
    · rw [present, read]
      cases named : configuredDialect? t with
      | none => simp [named, bind, Except.bind, Except.toOption]
      | some dialect => simp [named, bind, Except.bind, Except.toOption, pure, Except.pure]
    · rw [absent, unread]
      rfl

theorem packageDialect_eq (disk : Disk) (root : Path) :
    packageDialect disk root = do
      let entries ← jsonEntries disk (root.join "package.json")
      let own ← dependencies entries "dependencies"
      let others ← dependencies entries "devDependencies"
      return dialectOf (own ++ others) := by
  unfold packageDialect dialectOf
  -- The steps before the choice are the same on both sides.
  congr 1
  funext entries
  congr 1
  funext own
  congr 1
  funext others
  dsimp only
  split
  · rfl
  · split <;> rfl

theorem packageDialect_eq_ok_iff {dialect : Dialect}
    (legible : IsLegible disk (root.join "package.json")) :
    packageDialect disk root = .ok dialect ↔
      PackagesPassable disk root ∧ dialect = shownPackageDialect disk root := by
  rw [packageDialect_eq]
  simp only [bind_eq_ok_iff, jsonEntries_eq_ok_iff legible, dependencies_eq_ok_iff]
  constructor
  · rintro ⟨entries, ⟨document, rfl⟩, own, ⟨dependencies, rfl⟩, others, ⟨development, rfl⟩, found⟩
    exact ⟨⟨document, dependencies, development⟩, (Except.ok.inj found).symm⟩
  · rintro ⟨⟨document, dependencies, development⟩, rfl⟩
    exact ⟨_, ⟨document, rfl⟩, _, ⟨dependencies, rfl⟩, _, ⟨development, rfl⟩, rfl⟩

/-- The dialect is found unless the package file has to be asked and cannot be passed. -/
theorem detectDialect_eq_ok_iff {dialect : Dialect} (unset : Unset disk root) :
    detectDialect disk root = .ok dialect ↔
      (shownToolDialect? disk root toolConfigNames = none → PackagesPassable disk root) ∧
        dialect = (shownToolDialect? disk root toolConfigNames).getD
          (shownPackageDialect disk root) := by
  unfold detectDialect
  rw [toolDialectOf_eq unset.tool]
  cases shownToolDialect? disk root toolConfigNames with
  | none =>
    change packageDialect disk root = .ok dialect ↔ _
    rw [packageDialect_eq_ok_iff unset.packages]
    simp
  | some named =>
    change Except.ok named = Except.ok dialect ↔ _
    simp [eq_comm]

/-! ## The alias -/

/-- The paths of the compiler's configuration; its options have to be a mapping. -/
def pathsOf (entries : List (Value × Value)) : Except Failure Value :=
  match lookup? entries "compilerOptions" with
  | none => .ok .null
  | some (.mapping options) => .ok ((lookup? options "paths").getD .null)
  | some _ => .error .unsuitableValue

theorem pathsOf_eq_ok_iff {paths : Value} :
    pathsOf entries = .ok paths ↔
      IsMappingAt entries "compilerOptions" ∧
        paths = (lookup? (shownPart entries "compilerOptions") "paths").getD .null := by
  unfold pathsOf IsMappingAt shownPart
  cases lookup? entries "compilerOptions" with
  | none => simp [lookup?, eq_comm]
  | some value => cases value <;> simp [eq_comm]

theorem writtenAlias_eq (disk : Disk) (root : Path) :
    writtenAlias disk root = (do
      let entries ← jsonEntries disk (root.join "tsconfig.json")
      let paths ← pathsOf entries
      writtenPathsAlias paths) := by
  unfold writtenAlias pathsOf
  congr 1
  funext entries
  cases lookup? entries "compilerOptions" with
  | none => rfl
  | some value => cases value <;> rfl

/-- The compiler's configuration gives an alias that is a text exactly if it can be passed. -/
theorem writtenAlias_text_iff {t : Text} (legible : IsLegible disk (root.join "tsconfig.json")) :
    (∃ written, writtenAlias disk root = .ok written ∧ written.toText = .ok t) ↔
      CompilerPassable disk root ∧ t = pathsAlias (shownPaths disk root) := by
  rw [writtenAlias_eq]
  simp only [bind_eq_ok_iff, jsonEntries_eq_ok_iff legible, pathsOf_eq_ok_iff]
  constructor
  · rintro ⟨written, ⟨entries, ⟨document, rfl⟩, paths, ⟨options, rfl⟩, found⟩, isText⟩
    obtain ⟨passable, same⟩ := writtenPathsAlias_text_iff.1 ⟨written, found, isText⟩
    exact ⟨⟨document, options, passable⟩, same⟩
  · rintro ⟨⟨document, options, passable⟩, same⟩
    obtain ⟨written, found, isText⟩ := writtenPathsAlias_text_iff.2 ⟨passable, same⟩
    exact ⟨written, ⟨_, ⟨document, rfl⟩, _, ⟨options, rfl⟩, found⟩, isText⟩

/-! ## The settings -/

/-- Without a settings file the alias is the only value that is checked. -/
theorem override_alias_eq_ok_iff {base s : Settings} {pathAlias : Value} :
    (base.override (givenValue [] pathAlias)).orRefuse = .ok s ↔
      ∃ t, pathAlias.toText = .ok t ∧ s = { base with pathAlias := t } := by
  have checked : base.override (givenValue [] pathAlias) =
      Settings.mk base.root <$> pure base.useSrc
        <*> Checked.located [SettingName.pathAlias.key] pathAlias.toText
        <*> pure base.appFolder <*> pure base.dbFolder <*> pure base.dialect := rfl
  rw [checked]
  cases pathAlias.toText with
  | error kind => exact iff_of_false nofun nofun
  | ok t =>
    constructor
    · rintro ⟨⟩
      exact ⟨t, rfl, rfl⟩
    · rintro ⟨_, ⟨⟩, rfl⟩
      rfl

theorem detect_eq_ok_iff {s : Settings} (unset : Unset disk root) :
    detect disk root = .ok s ↔
      FilesPassable disk root ∧
        s = { shown disk root with pathAlias := pathsAlias (shownPaths disk root) } := by
  have steps : detect disk root = (do
      let pathAlias ← writtenAlias disk root
      let dialect ← detectDialect disk root
      ((conventions disk root dialect).override (givenValue [] pathAlias)).orRefuse) := by
    unfold detect
    dsimp only
    rw [unset.settings]
    rfl
  rw [steps]
  simp only [bind_eq_ok_iff, detectDialect_eq_ok_iff unset, override_alias_eq_ok_iff]
  constructor
  · rintro ⟨written, aliased, dialect, ⟨packages, rfl⟩, t, isText, rfl⟩
    obtain ⟨compiler, rfl⟩ := (writtenAlias_text_iff unset.compiler).1 ⟨written, aliased, isText⟩
    exact ⟨⟨compiler, packages⟩, rfl⟩
  · rintro ⟨⟨compiler, packages⟩, rfl⟩
    obtain ⟨written, aliased, isText⟩ := (writtenAlias_text_iff unset.compiler).2 ⟨compiler, rfl⟩
    exact ⟨written, aliased, _, ⟨packages, rfl⟩, _, isText, rfl⟩

/-- The paths give the alias that they show, unless they are a list with another one. -/
theorem pathsAlias_eq_shownAlias_iff :
    pathsAlias (shownPaths disk root) = shownAlias disk root ↔ ¬ ListsAlias disk root := by
  unfold ListsAlias shownAlias shownPaths shownPart
  cases lookup? (shownOptions disk root) "paths" with
  | none => simp [pathsAlias, firstAlias]
  | some paths => cases paths <;> simp [pathsAlias, firstAlias]

/-- Without a settings file, detection comes to settings exactly if the project's files hold nothing
    that it fails at. These are the settings that the files show, unless an alias was taken from a
    list. -/
theorem detect_eq_shown_iff (unset : Unset disk root) :
    ((∃ s, detect disk root = .ok s) ↔ FilesPassable disk root) ∧
      (detect disk root = .ok (shown disk root) ↔
        FilesPassable disk root ∧ ¬ ListsAlias disk root) := by
  constructor
  · constructor
    · rintro ⟨s, found⟩
      exact ((detect_eq_ok_iff unset).1 found).1
    · intro passable
      exact ⟨_, (detect_eq_ok_iff unset).2 ⟨passable, rfl⟩⟩
  · rw [detect_eq_ok_iff unset, ← pathsAlias_eq_shownAlias_iff]
    refine and_congr_right fun _ => ⟨fun same => ?_, fun same => ?_⟩
    · exact (congrArg Settings.pathAlias same).symm
    · rw [same]
      rfl

/-- A document is known from its tokens. -/
theorem document?_of_cut {t : Text} {cut : List Json.Token} (read : disk.read path = .ok t)
    (isCut : Json.tokens (Json.strip t) = cut) :
    document? disk path = some (Json.ofTokens cut) := by
  rw [document?, read, ← isCut]
  rfl

/-- The directory of a project. -/
def yard : Path := ⟨[], ["yard"]⟩

/-- A project that has nothing but a compiler's configuration and a package file. -/
def yardDisk (compiler packages : Text) : Disk := ⟨[
  (["yard"], .directory),
  (["yard", "tsconfig.json"], .file (.text compiler)),
  (["yard", "package.json"], .file (.text packages))]⟩

theorem yard_unset (compiler packages : Text) : Unset (yardDisk compiler packages) yard where
  settings := rfl
  compiler := fun _ => ⟨_, rfl⟩
  packages := fun _ => ⟨_, rfl⟩
  tool := by
    intro name member present
    simp only [toolConfigNames, List.map_cons, List.map_nil, List.mem_cons, List.not_mem_nil,
      or_false] at member
    rcases member with rfl | rfl | rfl <;> cases present

/-- A configuration whose paths are a text. -/
def textPaths : Text := "\x7b\"compilerOptions\": \x7b\"paths\": \"~/*\"\x7d\x7d"

/-- A text that is no JSON. -/
def noJson : Text := "\x7b not json"

theorem document?_textPaths (packages : Text) :
    document? (yardDisk textPaths packages) (yard.join "tsconfig.json") =
      some (.ok (.mapping
        [(.text "compilerOptions", .mapping [(.text "paths", .text "~/*")])])) := by
  have plain : Json.strip textPaths = textPaths := by decide +kernel
  have isCut : Json.tokens textPaths = [.openBrace, .text (.text "compilerOptions"), .colon,
      .openBrace, .text (.text "paths"), .colon, .text (.text "~/*"), .closeBrace,
      .closeBrace] := rfl
  rw [document?_of_cut rfl (plain ▸ isCut)]
  simp only [Json.ofTokens, Json.takeValue, Json.nestingLimit]
  rfl

theorem document?_noJson (compiler : Text) :
    document? (yardDisk compiler noJson) (yard.join "package.json") =
      some (.error .malformed) := by
  have plain : Json.strip noJson = noJson := by decide +kernel
  have isCut : Json.tokens noJson = [.openBrace, .fault .malformed, .fault .malformed] := rfl
  rw [document?_of_cut rfl (plain ▸ isCut)]
  rfl

theorem misshapen_show_nothing :
    Unset (yardDisk textPaths noJson) yard ∧ FilesPassable (yardDisk textPaths noJson) yard ∧
      ¬ ListsAlias (yardDisk textPaths noJson) yard ∧
      detect (yardDisk textPaths noJson) yard = .ok { root := yard } := by
  have unset := yard_unset textPaths noJson
  have compiler := document?_textPaths noJson
  have packages := document?_noJson textPaths
  have entries : shownEntries (yardDisk textPaths noJson) (yard.join "tsconfig.json") =
      [(.text "compilerOptions", .mapping [(.text "paths", .text "~/*")])] := by
    rw [shownEntries, compiler]
  have noEntries : shownEntries (yardDisk textPaths noJson) (yard.join "package.json") = [] := by
    rw [shownEntries, packages]
  have paths : shownPaths (yardDisk textPaths noJson) yard = .text "~/*" := by
    rw [shownPaths, shownOptions, entries]
    rfl
  have passable : FilesPassable (yardDisk textPaths noJson) yard := by
    refine ⟨⟨?_, ?_, paths ▸ .text _⟩, fun _ => ⟨?_, noEntries ▸ nofun, noEntries ▸ nofun⟩⟩
    · intro fault found
      rw [compiler] at found
      cases found
    · intro value found
      rw [entries] at found
      exact ⟨_, (Option.some.inj found).symm⟩
    · intro fault found
      rw [packages] at found
      exact (Except.error.inj (Option.some.inj found)).symm
  have noList : ¬ ListsAlias (yardDisk textPaths noJson) yard := by
    rintro ⟨items, isList, -⟩
    rw [paths] at isList
    cases isList
  have usual : shown (yardDisk textPaths noJson) yard = { root := yard } := by decide +kernel
  have found := (detect_eq_shown_iff unset).2.2 ⟨passable, noList⟩
  exact ⟨unset, passable, noList, usual ▸ found⟩

/-- A configuration whose options are null. -/
def nullOptions : Text := "\x7b\"compilerOptions\": null\x7d"

/-- A package file whose packages are null. -/
def nullPackages : Text := "\x7b\"dependencies\": null\x7d"

/-- A configuration whose paths are a list. -/
def listedPaths : Text := "\x7b\"compilerOptions\": \x7b\"paths\": [\"~/*\"]\x7d\x7d"

/-- Options and packages that are null are failed at, and a list of paths gives an alias. -/
theorem nullOptions_fail :
    (Unset (yardDisk nullOptions []) yard ∧
      ∀ s, detect (yardDisk nullOptions []) yard ≠ .ok s) ∧
    (Unset (yardDisk [] nullPackages) yard ∧
      ∀ s, detect (yardDisk [] nullPackages) yard ≠ .ok s) ∧
    Unset (yardDisk listedPaths []) yard ∧
      detect (yardDisk listedPaths []) yard ≠ .ok (shown (yardDisk listedPaths []) yard) := by
  have options : (detect (yardDisk nullOptions []) yard).toOption = none := by decide +kernel
  have packages : (detect (yardDisk [] nullPackages) yard).toOption = none := by decide +kernel
  have listed : (detect (yardDisk listedPaths []) yard).toOption =
      some { root := yard, pathAlias := "~" } := by decide +kernel
  have usual : shown (yardDisk listedPaths []) yard = { root := yard } := by decide +kernel
  refine ⟨⟨yard_unset _ _, ?_⟩, ⟨yard_unset _ _, ?_⟩, yard_unset _ _, ?_⟩
  · intro s found
    rw [found] at options
    cases options
  · intro s found
    rw [found] at packages
    cases packages
  · intro found
    rw [found, usual] at listed
    exact absurd listed (by decide)

end Groundwork.Project
