import Groundwork.Page.Edit
import Groundwork.Page.New
import Groundwork.Proofs.Form.Controls
import Groundwork.Proofs.Naming.Accepted

/-!
# Forms on pages

The page for a new record and the page that edits one have a form each, whose submission passes an
object to an action. Read back, the object has one property for each field, which is read under the
name of the field, and the form has one control for each field (`hasForm_new`, `hasForm_edit`).
-/

namespace Groundwork.Page

open Form Text

variable {names : ModelNames} {fields : List Field} {f : Field} {opening : Text}

/-! ## Readers -/

/-- The lines of a text after the first one that begins with `opening`, up to the next one that
    begins with `closing`. -/
def linesBetween (opening closing source : Text) : List Text :=
  let after := ((split '\n' source).dropWhile fun line => (after? opening line).isNone).tail
  after.takeWhile fun line => (after? closing line).isNone

/-- The keys of the object that is passed to a call, if each stands on its line. -/
def passedKeys (opening page : Text) : List Text :=
  (linesBetween opening (code "    ⟧") page).filterMap fun line =>
    (property? "      " line).map Prod.fst

/-- A page has a form for fields: the object that is passed to a call has a property for each, in
    order, the values are read under the names of the fields, and each field has one control. -/
structure HasForm (opening page : Text) (fields : List Text) : Prop where
  passed : passedKeys opening page = fields
  read : ∀ name, name ∈ namesFor .read page ↔ name ∈ fields
  controls : namesFor .control page = fields

theorem linesBetween_eq {closing source first last : Text} {front within back : List Text}
    (cut : split '\n' source = front ++ first :: (within ++ last :: back))
    (before : ∀ line ∈ front, after? opening line = none)
    (opens : (after? opening first).isSome = true)
    (inside : ∀ line ∈ within, after? closing line = none)
    (closes : (after? closing last).isSome = true) :
    linesBetween opening closing source = within := by
  unfold linesBetween
  rw [cut, List.dropWhile_append_of_pos (by simpa using before),
    List.dropWhile_cons_of_neg (by simpa [Option.isSome_iff_ne_none] using opens)]
  dsimp only [List.tail_cons]
  rw [List.takeWhile_append_of_pos (by simpa using inside),
    List.takeWhile_cons_of_neg (by simpa [Option.isSome_iff_ne_none] using closes),
    List.append_nil]

/-! ## Submitted properties -/

/-- The line of a property that is read from a submitted form. -/
def propertyLine (f : Field) (uuid : Bool) : Text :=
  "      " ++ f.name ++ ": " ++ submitted f uuid ++ ","

theorem not_mem_submitted (plain : Plain f.name) (uuid : Bool) : '\n' ∉ submitted f uuid := by
  have entry : '\n' ∉ submittedEntry f := by
    unfold submittedEntry
    simp [plain.not_mem (c := '\n') rfl]
  cases boolean : f.kind.isBoolean with
  | true =>
    unfold submitted
    simp only [boolean, if_true]
    split_ifs <;> simp [plain.not_mem (c := '\n') rfl]
  | false =>
    obtain ⟨before, behind⟩ := not_mem_conversion (.inr rfl) f uuid
    rw [submitted_eq uuid boolean]
    split_ifs <;> simp [entry, before, behind]

theorem property?_propertyLine (presentable : Presentable f) (uuid : Bool) :
    property? "      " (propertyLine f uuid) = some (f.name, submitted f uuid ++ ",") := by
  have read := property?_append (all_isWord_of_plain presentable.plain) presentable.nonempty
    "      " (submitted f uuid ++ ",")
  unfold propertyLine
  simpa only [List.append_assoc] using read

theorem not_mem_propertyLine (presentable : Presentable f) (uuid : Bool) :
    '\n' ∉ propertyLine f uuid := by
  unfold propertyLine
  simp [presentable.plain.not_mem (c := '\n') rfl, not_mem_submitted presentable.plain uuid]

theorem uses_propertyLine (plain : Plain f.name) (uuid : Bool) :
    ∃ n, uses (propertyLine f uuid) = List.replicate (n + 1) (.read, f.name) := by
  have quote := plain.not_mem (c := '"') rfl
  obtain ⟨n, read⟩ := uses_submitted quote uuid ("      " ++ f.name ++ ": ") "," (by simp [quote])
    (by decide)
  refine ⟨n, ?_⟩
  unfold propertyLine
  simpa only [List.append_assoc] using read

/-- The object of a form lists the fields, on lines that do not close it. -/
theorem split_submittedProperties (presentable : ∀ f ∈ fields, Presentable f) (options : Options) :
    (∀ line ∈ split '\n' (submittedProperties fields options),
        after? (code "    ⟧") line = none) ∧
      ((split '\n' (submittedProperties fields options)).filterMap fun line =>
        (property? "      " line).map Prod.fst) = fields.map Field.name := by
  cases fields with
  | nil =>
    refine ⟨fun line member => ?_, rfl⟩
    rw [List.mem_singleton.1 member]
    rfl
  | cons f rest =>
    have lines : split '\n' (submittedProperties (f :: rest) options) =
        (f :: rest).map fun g => propertyLine g options.uuid :=
      split_intercalate (List.cons_ne_nil _ _) fun line member => by
        obtain ⟨g, given, rfl⟩ := List.mem_map.1 member
        exact not_mem_propertyLine (presentable g given) options.uuid
    rw [lines]
    constructor
    · intro line member
      obtain ⟨g, -, rfl⟩ := List.mem_map.1 member
      rfl
    · rw [List.filterMap_map, ← List.filterMap_eq_map]
      refine List.filterMap_congr fun g given => ?_
      dsimp only [Function.comp_apply]
      rw [property?_propertyLine (presentable g given)]
      rfl

/-- The properties of a form read the fields, each by its name, and have no control. -/
theorem mem_uses_submittedProperties (presentable : ∀ f ∈ fields, Presentable f)
    (options : Options) (found : Use × Text) :
    found ∈ byLine uses (submittedProperties fields options) ↔
      found.1 = .read ∧ found.2 ∈ fields.map Field.name := by
  cases fields with
  | nil => simp [submittedProperties, block, byLine, split, uses, quotations, quotedPieces]
  | cons f rest =>
    have read : byLine uses (submittedProperties (f :: rest) options) =
        (f :: rest).flatMap fun g => uses (propertyLine g options.uuid) := by
      have lines : (f :: rest).map (fun g => propertyLine g options.uuid) ≠ [] :=
        List.cons_ne_nil _ _
      refine (byLine_block uses lines).trans ?_
      rw [List.flatMap_map]
      exact List.flatMap_congr fun g given =>
        byLine_of_not_mem (not_mem_propertyLine (presentable g given) options.uuid)
    rw [read, List.mem_flatMap, List.mem_map]
    constructor
    · rintro ⟨g, given, inside⟩
      obtain ⟨n, repeated⟩ := uses_propertyLine (presentable g given).plain options.uuid
      rw [repeated] at inside
      rw [(List.mem_replicate.1 inside).2]
      exact ⟨rfl, g, given, rfl⟩
    · rintro ⟨use, g, given, name⟩
      obtain ⟨n, repeated⟩ := uses_propertyLine (presentable g given).plain options.uuid
      refine ⟨g, given, ?_⟩
      rw [repeated, List.mem_replicate]
      exact ⟨Nat.succ_ne_zero n, Prod.ext use name.symm⟩

theorem byLine_controls (presentable : ∀ f ∈ fields, Presentable f) {item? : Option Text}
    (item : ∀ x ∈ item?, Text.Plain x) :
    byLine uses (controls fields item?) = fields.map fun f => (.control, f.name) := by
  unfold controls
  rw [byLine_paragraphs rfl, List.flatMap_map, ← List.flatMap_pure_eq_map]
  exact List.flatMap_congr fun f given => byLine_widget (presentable f given) item

/-- What the line with a call of an action begins with. -/
def awaiting : Text := "    await "

/-- The text is one line, which uses no name and calls no action. -/
structure Precedes (line : Text) : Prop where
  oneLine : '\n' ∉ line
  silent : uses line = []
  other : after? awaiting line = none

instance (line : Text) : Decidable (Precedes line) :=
  decidable_of_iff ('\n' ∉ line ∧ uses line = [] ∧ after? awaiting line = none)
    ⟨fun ⟨oneLine, silent, other⟩ => ⟨oneLine, silent, other⟩,
      fun before => ⟨before.oneLine, before.silent, before.other⟩⟩

theorem after?_eq_none_of_awaiting {line : Text} (other : after? awaiting line = none)
    (action : Text) : after? (awaiting ++ action) line = none := by
  rw [Option.eq_none_iff_forall_ne_some] at other ⊢
  intro rest begins
  refine other (action ++ rest) (after?_eq_some_iff.2 ?_)
  rw [after?_eq_some_iff.1 begins, List.append_assoc]

/-- The lines of a form's page: those before the call, the call, the properties of the object, and
    those from the end of the object on. -/
theorem split_layout {front : List Text} {call object : Text} (rest : List Text)
    (before : ∀ line ∈ front, '\n' ∉ line) (single : '\n' ∉ call) :
    split '\n' (lines (front ++ call :: object :: code "    ⟧);" :: rest)) =
      front ++ call :: (split '\n' object ++ code "    ⟧);" ::
        (rest.flatMap (split '\n') ++ [[]])) := by
  rw [split_lines, List.flatMap_append, flatMap_split before, List.flatMap_cons, List.flatMap_cons,
    List.flatMap_cons, split_of_not_mem single,
    show split '\n' (code "    ⟧);") = [code "    ⟧);"] by decide]
  simp only [List.append_assoc, List.cons_append, List.nil_append]

theorem awaits_action {lead verb : Text} (same : lead = awaiting ++ verb) (model : Text) :
    lead ++ model ++ "(" = awaiting ++ (verb ++ model ++ "(") := by
  rw [same, List.append_assoc, List.append_assoc, List.append_assoc]

/-- A page that is laid out around the properties and the controls has a form for the fields, if
    nothing else on it uses names. -/
theorem hasForm_of_layout (presentable : ∀ f ∈ fields, Presentable f) (options : Options)
    {item? : Option Text} (item : ∀ x ∈ item?, Text.Plain x) (front lead middle back : List Text)
    {action call : Text} (awaits : opening = awaiting ++ action)
    (before : ∀ line ∈ front ++ lead, Precedes line)
    (calls : '\n' ∉ call ∧ uses call = [] ∧ (after? opening call).isSome = true)
    (between : ∀ line ∈ middle, byLine uses line = [])
    (behind : ∀ line ∈ back, byLine uses line = []) :
    HasForm opening (lines (front ++ (lead ++ call :: submittedProperties fields options ::
      code "    ⟧);" :: (middle ++ controls fields item? :: back)))) (fields.map Field.name) := by
  rw [← List.append_assoc]
  generalize front ++ lead = front at before
  have silent : front.flatMap (byLine uses) = [] := List.flatMap_eq_nil_iff.2 fun line member => by
    rw [byLine_of_not_mem (before line member).oneLine, (before line member).silent]
  -- Only the properties and the controls use names, so the page uses what these use.
  have found : byLine uses (lines (front ++ call :: submittedProperties fields options ::
      code "    ⟧);" :: (middle ++ controls fields item? :: back))) =
        byLine uses (submittedProperties fields options) ++
          (fields.map Field.name).map fun name => (.control, name) := by
    rw [byLine_lines, List.flatMap_append, silent, List.flatMap_cons, List.flatMap_cons,
      List.flatMap_cons, List.flatMap_append, List.flatMap_cons,
      List.flatMap_eq_nil_iff.2 between, List.flatMap_eq_nil_iff.2 behind,
      byLine_of_not_mem calls.1, calls.2.1, byLine_controls presentable item,
      show byLine uses (code "    ⟧);") = [] by decide, show uses [] = [] from rfl]
    simp only [List.nil_append, List.append_nil, List.map_map, Function.comp_def]
  obtain ⟨read, controls⟩ := namesFor_of_uses found
    (mem_uses_submittedProperties presentable options)
  refine ⟨?_, read, controls⟩
  obtain ⟨inside, keys⟩ := split_submittedProperties presentable options
  unfold passedKeys
  rw [linesBetween_eq (split_layout _ (fun line member => (before line member).oneLine) calls.1)
    (fun line member => awaits ▸ after?_eq_none_of_awaiting (before line member).other action)
    calls.2.2 inside (by decide)]
  exact keys

/-! ## The two pages -/

theorem precedes_of_not_mem {line : Text} (feed : '\n' ∉ line) (quote : '"' ∉ line)
    (other : after? awaiting line = none) : Precedes line where
  oneLine := feed
  silent := uses_of_not_mem quote
  other := other

/-- An import uses no name. -/
theorem uses_importLine (s module : Text) (front : '"' ∉ s) (inside : '"' ∉ module) :
    uses (s ++ (code " ⟧ from " ++ '"' :: (module ++ '"' :: ";"))) = [] :=
  (uses_skip s (code " ⟧ from ") module ";" (by decide) (by simp [front, code]) inside).trans
    (by decide)

theorem byLine_redirect (titled : names.Titled) :
    byLine uses ("    redirect(\"/" ++ names.kebabPlural ++ "\");") = [] :=
  byLine_skip [] "    redirect(" ('/' :: names.kebabPlural) ");"
    (by decide) (by decide) (by simp [titled.not_mem_path (c := '"') rfl (by decide)])
    (by simp [titled.not_mem_path (c := '\n') rfl (by decide)]) (by decide) (by decide)

theorem byLine_heading (titled : names.Titled) (action : Text) (quote : '"' ∉ action)
    (feed : '\n' ∉ action) :
    byLine uses ("      <h1 className=" ++ '"' :: ("mb-8 text-2xl font-semibold text-gray-900" ++
      '"' :: '>' :: (action ++ (names.pascal ++ "</h1>")))) = [] :=
  byLine_skip [] "      <h1 className=" "mb-8 text-2xl font-semibold text-gray-900" _
    (by decide) (by decide) (by decide) (by decide)
    (by simp [feed, titled.pascal.not_mem (c := '\n') rfl])
    (uses_of_not_mem (by simp [quote, titled.pascal.not_mem (c := '"') rfl]))

theorem byLine_formButtons (titled : names.Titled) {action : Text} (quote : '"' ∉ action) :
    ∀ line ∈ formButtons names action, byLine uses line = [] := by
  have href : byLine uses ("            href=\"/" ++ names.kebabPlural ++ "\"") = [] :=
    byLine_skip [] "            href=" ('/' :: names.kebabPlural) [] (by decide) (by decide)
      (by simp [titled.not_mem_path (c := '"') rfl (by decide)])
      (by simp [titled.not_mem_path (c := '\n') rfl (by decide)]) (by decide) (by decide)
  have caption : byLine uses ("            " ++ action ++ " " ++ names.pascal) = [] :=
    byLine_eq_nil (fun _ => uses_of_not_mem) (by simp [quote, titled.pascal.not_mem (c := '"') rfl])
  have primary : byLine uses ("            className=\"" ++ primaryButton ++ "\"") = [] := by
    unfold primaryButton
    rw [String.toList_ofList, String.toList_ofList, String.toList_ofList, String.toList_ofList]
    decide +kernel
  have secondary : byLine uses ("            className=\"" ++ secondaryButton ++ "\"") = [] := by
    unfold secondaryButton
    rw [String.toList_ofList, String.toList_ofList, String.toList_ofList, String.toList_ofList]
    decide +kernel
  unfold formButtons
  simp only [List.forall_mem_cons]
  refine ⟨by decide, by decide, by decide, primary, by decide, caption, by decide, by decide, href,
    secondary, by decide, by decide, by decide, by decide, by decide, by decide, by decide,
    by decide, by simp⟩

/-- The lines between the object and the controls use no name. -/
theorem byLine_betweenForms (titled : names.Titled) {title form : Text}
    (heading : byLine uses title = []) (opens : byLine uses form = []) :
    ∀ line ∈ (["", "    redirect(\"/" ++ names.kebabPlural ++ "\");", code "  ⟧", "", "  return (",
      "    <div className=\"mx-auto max-w-xl px-6 py-12\">", title, "", form] : List Text),
      byLine uses line = [] := by
  simp only [List.forall_mem_cons]
  exact ⟨by decide, byLine_redirect titled, by decide, by decide, by decide, by decide, heading,
    by decide, opens, by simp⟩

/-- The page for a new record passes the fields to the action that creates one. -/
theorem hasForm_new (titled : names.Titled) (presentable : ∀ f ∈ fields, Presentable f)
    (options : Options) :
    HasForm ("    await create" ++ names.pascal ++ "(") (new names fields options)
      (fields.map Field.name) := by
  have quote := titled.pascal.not_mem (c := '"') rfl
  have feed := titled.pascal.not_mem (c := '\n') rfl
  have heading : byLine uses
      ("      <h1 className=\"mb-8 text-2xl font-semibold text-gray-900\">New " ++ names.pascal
        ++ "</h1>") = [] := by
    rw [String.toList_ofList]
    exact byLine_heading titled "New " (by decide) (by decide)
  have noItem : ∀ x ∈ (none : Option Text), Text.Plain x := by simp
  have awaits : "    await create" ++ names.pascal ++ "(" = awaiting ++ ("create" ++ names.pascal ++ "(") :=
    awaits_action (by decide) names.pascal
  -- The lines around the form are read off the page.
  refine hasForm_of_layout presentable options noItem [_, _, _, _, _] [_, _, _]
    [_, _, _, _, _, _, _, _, _] (_ :: formButtons names "Create") awaits ?_ ⟨?_, ?_, ?_⟩
    (byLine_betweenForms titled heading (by decide)) ?_
  · simp only [List.cons_append, List.nil_append, List.forall_mem_cons]
    refine ⟨by decide, by decide, ⟨?_, ?_, rfl⟩, by decide, precedes_of_not_mem ?_ ?_ rfl,
      by decide, by decide, by decide, by simp⟩
    · simp [feed, code]
    · exact uses_importLine (code "import ⟦ create" ++ names.pascal) "../actions"
        (by simp [quote, code]) (by decide)
    · simp [feed, code]
    · simp [quote, code]
  · simp [feed, code]
  · exact uses_of_not_mem (by simp [quote, code])
  · exact Option.isSome_iff_exists.2 ⟨code "⟦", after?_eq_some_iff.2 (by simp [code])⟩
  · simp only [List.forall_mem_cons]
    exact ⟨by decide, byLine_formButtons titled (by decide)⟩

theorem precedes_lookup (titled : names.Titled) (options : Options) :
    ∀ line ∈ lookup names options, Precedes line := by
  have found (key : Text) (quote : '"' ∉ key) (feed : '\n' ∉ key) :
      Precedes ("  const " ++ names.camel ++ " = await get" ++ names.pascal ++ key) := by
    refine precedes_of_not_mem ?_ ?_ rfl
    · simp [titled.camel.not_mem (c := '\n') rfl, titled.pascal.not_mem (c := '\n') rfl, feed]
    · simp [titled.camel.not_mem (c := '"') rfl, titled.pascal.not_mem (c := '"') rfl, quote]
  unfold lookup
  split
  · simpa only [List.forall_mem_singleton] using found "(id);" (by decide) (by decide)
  · simp only [List.forall_mem_cons]
    exact ⟨by decide, by decide, by decide, by decide, by decide, by decide,
      found "(numericId);" (by decide) (by decide), by simp⟩

theorem precedes_recordParameters : ∀ line ∈ recordParameters, Precedes line := by
  decide

theorem precedes_requireRecord (titled : names.Titled) :
    ∀ line ∈ requireRecord names, Precedes line := by
  unfold requireRecord
  simp only [List.forall_mem_cons]
  refine ⟨by decide, precedes_of_not_mem ?_ ?_ rfl, by decide, by decide, by decide, by simp⟩
  · simp [titled.camel.not_mem (c := '\n') rfl, code]
  · simp [titled.camel.not_mem (c := '"') rfl, code]

/-- The page that edits a record passes the fields to the action that updates it. -/
theorem hasForm_edit (titled : names.Titled) (presentable : ∀ f ∈ fields, Presentable f)
    (options : Options) :
    HasForm ("    await update" ++ names.pascal ++ "(") (edit names fields options)
      (fields.map Field.name) := by
  have quote := titled.pascal.not_mem (c := '"') rfl
  have feed := titled.pascal.not_mem (c := '\n') rfl
  have heading : byLine uses
      ("      <h1 className=\"mb-8 text-2xl font-semibold text-gray-900\">Edit " ++ names.pascal
        ++ "</h1>") = [] := by
    rw [String.toList_ofList]
    exact byLine_heading titled "Edit " (by decide) (by decide)
  have awaits : "    await update" ++ names.pascal ++ "(" = awaiting ++ ("update" ++ names.pascal ++ "(") :=
    awaits_action (by decide) names.pascal
  unfold edit
  rw [List.append_assoc (_ ++ requireRecord names)]
  have item : ∀ x ∈ some names.camel, Text.Plain x :=
    fun x given => Option.mem_some_iff.1 given ▸ titled.camel
  refine hasForm_of_layout presentable options item _ [_, _, _] [_, _, _, _, _, _, _, _, _]
    (_ :: formButtons names "Update") awaits ?_ ⟨?_, ?_, ?_⟩
    (byLine_betweenForms titled heading (by decide)) ?_
  · simp only [List.forall_mem_append, List.forall_mem_cons]
    refine ⟨⟨⟨⟨⟨by decide, by decide, ⟨?_, ?_, rfl⟩, by decide, precedes_of_not_mem ?_ ?_ rfl,
      by simp⟩, precedes_recordParameters⟩, precedes_lookup titled options⟩,
      precedes_requireRecord titled⟩, by decide, by decide, by decide, by simp⟩
    · simp [feed, code]
    · exact uses_importLine (code "import ⟦ get" ++ names.pascal ++ ", update" ++ names.pascal)
        "../../actions" (by simp [quote, code]) (by decide)
    · simp [feed, code]
    · simp [quote, code]
  · cases options.uuid <;> simp [feed, code]
  · cases options.uuid <;> exact uses_of_not_mem (by simp [quote, code])
  · exact Option.isSome_iff_exists.2 ⟨_, after?_eq_some_iff.2 (List.append_assoc _ _ _)⟩
  · simp only [List.forall_mem_cons]
    exact ⟨by decide, byLine_formButtons titled (by decide)⟩

end Groundwork.Page
