import Groundwork.Proofs.Generator.Forcing
import Groundwork.Proofs.Generator.SchemaFile
import Groundwork.Proofs.Schema.Appending
import Groundwork.Proofs.Text.LineEnds

/-!
# The bytes of a schema file

A model is appended to the schema as it is read, with line feeds for all line endings, and the whole
file is written again. Reading moves no import statement (`ImportSite.find?_normaliseLineEnds`), so
the bytes around the statement are kept exactly where no carriage return is among them
(`model_keeps_bytes_iff`).
-/

namespace Groundwork

/-! ## Bytes -/

namespace Text

/-- The text in UTF-8. -/
def bytes (t : Text) : List UInt8 := t.flatMap String.utf8EncodeChar

@[simp] theorem bytes_append (s t : Text) : bytes (s ++ t) = bytes s ++ bytes t :=
  List.flatMap_append

/-- Texts with the same bytes are the same. -/
theorem bytes_inj {s t : Text} : bytes s = bytes t ↔ s = t := by
  refine ⟨fun same => ?_, fun same => same ▸ rfl⟩
  have encoded : s.utf8Encode = t.utf8Encode := congrArg List.toByteArray same
  rwa [← String.toByteArray_ofList, ← String.toByteArray_ofList, String.toByteArray_inj,
    String.ofList_inj] at encoded

end Text

/-- The bytes of a file. -/
def Content.bytes : Content → List UInt8
  | .text t => t.bytes
  | .binary bytes => bytes

namespace Schema

open Text

/-! ## Import statements of a file that is read -/

theorem exists_normaliseLineEnds_cons (c : Char) (s : Text) :
    ∃ d t, normaliseLineEnds (c :: s) = d :: t :=
  List.exists_cons_of_ne_nil fun empty =>
    List.cons_ne_nil c s (normaliseLineEnds_eq_nil_iff.1 empty)

theorem braced?_normaliseLineEnds (s : Text) :
    braced? (normaliseLineEnds s) =
      (braced? s).map (Prod.map normaliseLineEnds normaliseLineEnds) := by
  unfold braced?
  rw [after?_normaliseLineEnds (by decide)]
  cases after? ['\x7b'] s with
  | none => rfl
  | some inside =>
    have read := span_normaliseLineEnds (p := (· ≠ '\x7d')) (by decide) inside
    simp only [Option.map_some, read]
    rcases cut : inside.span (· ≠ '\x7d') with ⟨_ | ⟨c, symbols⟩, _ | ⟨d, rest⟩⟩
    · rfl
    · rfl
    · obtain ⟨e, t, same⟩ := exists_normaliseLineEnds_cons c symbols
      simp [same, normaliseLineEnds]
    · obtain ⟨e, t, same⟩ := exists_normaliseLineEnds_cons c symbols
      obtain rfl : d = '\x7d' := by simpa using (span_eq_iff.1 cut).2.2
      simp [same, normaliseLineEnds_cons]

theorem afterModule?_normaliseLineEnds (s : Text) :
    afterModule? (normaliseLineEnds s) = (afterModule? s).map normaliseLineEnds := by
  have quote (s : Text) :
      afterQuote? (normaliseLineEnds s) = (afterQuote? s).map normaliseLineEnds := by
    cases s with
    | nil => rfl
    | cons c s =>
      by_cases ending : c = '\r'
      · subst ending
        obtain ⟨t, same⟩ := exists_normaliseLineEnds_return s
        simp [afterQuote?, same, isQuote]
      · rw [normaliseLineEnds_cons ending]
        by_cases mark : isQuote c = true <;> simp [afterQuote?, mark]
  unfold afterModule?
  rw [quote]
  cases afterQuote? s with
  | none => rfl
  | some s =>
    simp only [Option.bind_eq_bind, Option.map_some, Option.bind_some]
    rw [after?_normaliseLineEnds (by decide)]
    cases after? "drizzle-orm/" s with
    | none => rfl
    | some s =>
      have read := span_normaliseLineEnds (p := fun c => !isQuote c) (by decide) s
      simp only [Option.map_some, Option.bind_some, read]
      rcases s.span fun c => !isQuote c with ⟨_ | ⟨c, path⟩, rest⟩
      · rfl
      · obtain ⟨e, t, same⟩ := exists_normaliseLineEnds_cons c path
        simp only [same, quote]

/-- A statement is an import as it is read exactly if it is one as it stands. -/
theorem importAt?_normaliseLineEnds (s : Text) :
    importAt? (normaliseLineEnds s) =
      (importAt? s).map (Prod.map normaliseLineEnds normaliseLineEnds) := by
  unfold importAt?
  rw [after?_normaliseLineEnds (by decide)]
  cases after? "import" s with
  | none => rfl
  | some s =>
    simp only [Option.bind_eq_bind, Option.map_some, Option.bind_some]
    rw [dropBlanks_normaliseLineEnds, braced?_normaliseLineEnds]
    rcases braced? (dropBlanks s) with _ | ⟨inside, s⟩
    · rfl
    · simp only [Option.map_some, Option.bind_some, Prod.map_apply]
      rw [dropBlanks_normaliseLineEnds, after?_normaliseLineEnds (by decide)]
      cases after? "from" (dropBlanks s) with
      | none => rfl
      | some s =>
        simp only [Option.map_some, Option.bind_some]
        rw [dropBlanks_normaliseLineEnds, afterModule?_normaliseLineEnds]
        cases afterModule? (dropBlanks s) with
        | none => rfl
        | some s => simp [dropOne_normaliseLineEnds]

namespace ImportSite

/-- The import statement of a file that is read. -/
def normaliseLineEnds (site : ImportSite) : ImportSite where
  front := Text.normaliseLineEnds site.front
  inside := Text.normaliseLineEnds site.inside
  back := Text.normaliseLineEnds site.back

/-- Reading a file moves no import statement. -/
theorem find?_normaliseLineEnds (content : Text) :
    find? (Text.normaliseLineEnds content) = (find? content).map normaliseLineEnds := by
  unfold find?
  rw [search_normaliseLineEnds importAt?_normaliseLineEnds none none, Option.map_map,
    Option.map_map]
  rfl

end ImportSite

end Schema

namespace Generator

open Schema Text

variable {g : Generator} {name : Text} {tokens : List Text} {names : ModelNames}
  {fields : List Field} {old : Text} {site : ImportSite} {s : Session}

/-- Around a statement a text is kept when it is read exactly if no carriage return stands there. -/
theorem normaliseLineEnds_around_iff (front statement back added : Text) :
    normaliseLineEnds front ++ statement ++ normaliseLineEnds back ++ added =
        front ++ statement ++ back ++ added ↔ '\r' ∉ front ∧ '\r' ∉ back := by
  constructor
  · intro same
    have returns := congrArg (List.count '\r') same
    simp only [List.count_append, List.count_eq_zero_of_not_mem (not_mem_normaliseLineEnds _)]
      at returns
    rw [← List.count_eq_zero, ← List.count_eq_zero]
    omega
  · rintro ⟨noReturn, noReturnBack⟩
    rw [normaliseLineEnds_of_not_mem noReturn, normaliseLineEnds_of_not_mem noReturnBack]

/-- A model that a file does not have is appended to the file as it is read. -/
theorem find?_of_append (named : g.named name tokens = .ok (names, fields))
    (reads : g.settings.ReadsBack s.disk) (wet : g.options.dryRun = false)
    (stands : s.disk.find? g.settings.schemaFile = some (.file (.text old)))
    (fresh : hasTable (normaliseLineEnds old) names.table = false)
    (done : ((g.model name tokens).on s).1 = .ok ()) :
    ((g.model name tokens).on s).2.disk.find? g.settings.schemaFile =
      some (.file (.text (append (normaliseLineEnds old) names fields g.settings.dialect
        g.options))) := by
  have merged : g.mergedSchema (normaliseLineEnds old) names fields =
      .ok (append (normaliseLineEnds old) names fields g.settings.dialect g.options) := by
    unfold mergedSchema
    rw [fresh]
    rfl
  have drafted := schemaDraft_of_read named (Disk.read_of_find? stands)
  rw [merged] at drafted
  exact (find?_of_model reads wet drafted done).2

/-- Where a model is appended to a schema file with an import statement, the new bytes are those of
    the text before the statement, the merged statement, the text after it and the model, the old
    text as it is read. So every old byte outside the statement is kept exactly if no carriage
    return is among them. -/
theorem model_keeps_bytes_iff (named : g.named name tokens = .ok (names, fields))
    (reads : g.settings.ReadsBack s.disk) (wet : g.options.dryRun = false)
    (stands : s.disk.find? g.settings.schemaFile = some (.file (.text old)))
    (found : ImportSite.find? old = some site)
    (fresh : hasTable (normaliseLineEnds old) names.table = false)
    (done : ((g.model name tokens).on s).1 = .ok ()) :
    let merged := importStatement (site.normaliseLineEnds.symbols ++
      requiredImports fields g.settings.dialect g.options).eraseDups g.settings.dialect
    let gap : Text := if endsWith "\n" (normaliseLineEnds old) then "\n" else "\n\n"
    let added := gap ++ definitions names fields g.settings.dialect g.options ++ "\n"
    ∃ (statement : Text) (new : Content),
      (Content.text old).bytes = site.front.bytes ++ statement.bytes ++ site.back.bytes ∧
      importAt? (statement ++ site.back) = some (site.inside, site.back) ∧
      ((g.model name tokens).on s).2.disk.find? g.settings.schemaFile = some (.file new) ∧
      new.bytes = (normaliseLineEnds site.front).bytes ++ merged.bytes ++
        (normaliseLineEnds site.back).bytes ++ added.bytes ∧
      (new.bytes = site.front.bytes ++ merged.bytes ++ site.back.bytes ++ added.bytes ↔
        '\r' ∉ site.front ∧ '\r' ∉ site.back) := by
  intro merged gap added
  obtain ⟨statement, cut, begins⟩ := ImportSite.exists_statement found
  have read : ImportSite.find? (normaliseLineEnds old) = some site.normaliseLineEnds := by
    rw [ImportSite.find?_normaliseLineEnds, found]
    rfl
  have appended := ((append_keeps_text (normaliseLineEnds old) names fields g.settings.dialect
    g.options).1 _ read).2
  have whole : append (normaliseLineEnds old) names fields g.settings.dialect g.options =
      normaliseLineEnds site.front ++ merged ++ normaliseLineEnds site.back ++ added := by
    rw [appended]
    simp only [ImportSite.normaliseLineEnds, added, List.append_assoc]
    rfl
  have new := find?_of_append named reads wet stands fresh done
  rw [whole] at new
  refine ⟨statement, _, ?_, begins, new, ?_, ?_⟩
  · simp [Content.bytes, cut]
  · simp [Content.bytes]
  · rw [← normaliseLineEnds_around_iff site.front merged site.back added, ← bytes_inj]
    simp [Content.bytes]

/-- A schema file with the line ending `feed`, a comment before its import statement and two lines
    after it. -/
def schemaWith (feed : Text) : Text :=
  "// tables" ++ feed ++ Text.code "import ⟦ pgTable ⟧ from \"drizzle-orm/pg-core\";" ++ feed
    ++ feed ++ "// more" ++ feed

/-- The project at the top's directory `p`. -/
def appending : Generator where
  settings := { root := ⟨"/", ["p"]⟩, dialect := .postgresql }
  options := {}

theorem named_appending : appending.named "post" [] = .ok (.ofName "post", []) := by
  decide +kernel

theorem readsBack_appending (disk : Disk) : appending.settings.ReadsBack disk := by
  intro empty
  simp [appending] at empty

/-- With line feeds all bytes around the statement are kept. -/
theorem feeds_keep_bytes :
    ∃ new, ((appending.model "post" []).on { disk := schemaDisk (schemaWith "\n") }).2.disk.find?
        appending.settings.schemaFile = some (.file new) ∧
      new.bytes = bytes "// tables\n" ++
        bytes (importStatement ["pgTable", "serial", "timestamp"] .postgresql) ++
        bytes "\n\n// more\n" ++
        bytes ("\n" ++ definitions (.ofName "post") [] .postgresql {} ++ "\n") := by
  have stands : (schemaDisk (schemaWith "\n")).find? appending.settings.schemaFile =
      some (.file (.text (schemaWith "\n"))) := by decide +kernel
  have found : ImportSite.find? (schemaWith "\n") =
      some ⟨"// tables\n", " pgTable ", "\n\n// more\n"⟩ := by decide +kernel
  have fresh : hasTable (normaliseLineEnds (schemaWith "\n")) (ModelNames.ofName "post").table =
      false := by decide +kernel
  have done : ((appending.model "post" []).on { disk := schemaDisk (schemaWith "\n") }).1 =
      .ok () := by decide +kernel
  obtain ⟨statement, new, -, -, later, -, kept⟩ :=
    model_keeps_bytes_iff named_appending (readsBack_appending _) rfl stands found fresh done
  refine ⟨new, later, (kept.2 (by decide)).trans ?_⟩
  decide +kernel

/-- With carriage returns the bytes after the statement are not those of the old file, whatever
    statement and model stand there. -/
theorem returns_lose_bytes :
    ImportSite.find? (schemaWith "\r\n") =
        some ⟨"// tables\r\n", " pgTable ", "\r\n\r\n// more\r\n"⟩ ∧
      hasTable (normaliseLineEnds (schemaWith "\r\n")) "posts" = false ∧
      ((appending.model "post" []).on { disk := schemaDisk (schemaWith "\r\n") }).1 = .ok () ∧
      ∃ new, ((appending.model "post" []).on
          { disk := schemaDisk (schemaWith "\r\n") }).2.disk.find?
            appending.settings.schemaFile = some (.file new) ∧
        ∀ merged added, new.bytes ≠ bytes "// tables\r\n" ++ merged ++
          bytes "\r\n\r\n// more\r\n" ++ added := by
  have stands : (schemaDisk (schemaWith "\r\n")).find? appending.settings.schemaFile =
      some (.file (.text (schemaWith "\r\n"))) := by decide +kernel
  have fresh : hasTable (normaliseLineEnds (schemaWith "\r\n")) (ModelNames.ofName "post").table =
      false := by decide +kernel
  have done : ((appending.model "post" []).on { disk := schemaDisk (schemaWith "\r\n") }).1 =
      .ok () := by decide +kernel
  have new := find?_of_append named_appending (readsBack_appending _) rfl stands fresh done
  refine ⟨by decide +kernel, fresh, done, _, new, fun merged added same => ?_⟩
  have lost : 13 ∉ (Content.text (append (normaliseLineEnds (schemaWith "\r\n"))
      (ModelNames.ofName "post") [] appending.settings.dialect appending.options)).bytes := by
    decide +kernel
  have kept : 13 ∈ bytes "\r\n\r\n// more\r\n" := by decide +kernel
  apply lost
  rw [same]
  exact List.mem_append_left _ (List.mem_append_right _ kept)

end Generator

end Groundwork
