import Groundwork.Proofs.Schema.Replacement

/-!
# Names of exports

The names that a schema file exports, one for each line that begins with `export const` and a name
(`exportNames`). They are those of the parts that a file is made of wherever no part goes on with
the last line of the part before it, and rewriting a file drops and adds them with those parts
(`exportNames_dropEnumExport`, `exportNames_mergeImports_sublist`, `exportNames_replaceBlock`).
-/

namespace Groundwork.Schema

open Text

/-- A character of an identifier. -/
def isIdentifierChar (c : Char) : Bool := isWord c || c = '$'

/-- The name that is exported by a line, if the text begins one. -/
def exportedName? (before : Option Char) (s : Text) : Option Text :=
  if beginsLine before then
    match after? "export const " s with
    | none => none
    | some s =>
      match s.span isIdentifierChar with
      | ([], _) => none
      | (name, _) => some name
  else none

/-- The names that the lines of a text export, in order; `before` is the character before it. -/
def exportNames (before : Option Char) : Text → List Text
  | [] => []
  | c :: s => (exportedName? before (c :: s)).toList ++ exportNames (some c) s

/-- No two lines of the text export the same name. -/
def ExportsApart (content : Text) : Prop := (exportNames none content).Nodup

instance (content : Text) : Decidable (ExportsApart content) :=
  inferInstanceAs (Decidable (exportNames none content).Nodup)

theorem exportedName?_eq_some_iff {before : Option Char} {s name : Text} :
    exportedName? before s = some name ↔ beginsLine before = true ∧ name ≠ [] ∧
      name.all isIdentifierChar = true ∧
        ∃ rest, Stops isIdentifierChar rest ∧ s = "export const " ++ (name ++ rest) := by
  unfold exportedName?
  cases beginsLine before with
  | false => simp
  | true =>
    simp only [if_true, true_and]
    constructor
    · intro found
      split at found
      · cases found
      · next rest after =>
        obtain rfl := after?_eq_some_iff.1 after
        split at found
        · cases found
        · next word other nonempty run =>
          obtain ⟨rfl, letters, stops⟩ := span_eq_iff.1 run
          obtain rfl : word = name := by simpa using found
          exact ⟨nonempty, letters, other, stops, rfl⟩
    · rintro ⟨nonempty, letters, rest, stops, rfl⟩
      simp only [after?_eq_some_iff.2 rfl, span_eq_iff.2 ⟨rfl, letters, stops⟩]

theorem isIdentifierChar_of_isWord {c : Char} (letter : isWord c = true) :
    isIdentifierChar c = true := by
  simp [isIdentifierChar, letter]

theorem all_isIdentifierChar_of_all_isWord {s : Text} (letters : s.all isWord = true) :
    s.all isIdentifierChar = true := by
  rw [List.all_eq_true] at letters ⊢
  exact fun c member => isIdentifierChar_of_isWord (letters c member)

theorem not_isIdentifierChar_of_isBlank {c : Char} (blank : isBlank c = true) :
    isIdentifierChar c = false := by
  rw [← Bool.not_eq_true]
  intro letter
  rcases Bool.or_eq_true_iff.1 letter with word | dollar
  · rw [not_isWord_of_isBlank blank] at word
    cases word
  · rw [of_decide_eq_true dollar] at blank
    exact absurd blank (by decide)

/-- Only whether a line begins matters of what precedes a text. -/
theorem exportNames_congr {before other : Option Char}
    (same : beginsLine before = beginsLine other) (s : Text) :
    exportNames before s = exportNames other s := by
  cases s with
  | nil => rfl
  | cons c s => simp only [exportNames, exportedName?, same]

/-! ## Seams -/

/-- What is recognised as an export, up to the end of its name. -/
def IsExport (w : Text) : Prop :=
  ∃ name, name ≠ [] ∧ name.all isIdentifierChar = true ∧ w = "export const " ++ name

/-- An export is recognised in the same way whatever follows, if no export reaches over the seam. -/
theorem exportedName?_append {z y : Text} (apart : ∀ e, e ≠ [] → e <+: y → ¬ IsExport (z ++ e))
    (before : Option Char) : exportedName? before (z ++ y) = exportedName? before z := by
  refine Option.ext fun name => ?_
  rw [exportedName?_eq_some_iff, exportedName?_eq_some_iff]
  refine and_congr_right fun _ => and_congr_right fun filled => and_congr_right fun letters => ?_
  constructor
  · rintro ⟨rest, ends, same⟩
    rw [← List.append_assoc] at same
    rcases List.append_eq_append_iff.1 same with ⟨e, export', rfl⟩ | ⟨e, rfl, rfl⟩
    · by_cases empty : e = []
      · subst empty
        exact ⟨[], stops_nil _, by simpa using export'.symm⟩
      · exact absurd ⟨name, filled, letters, export'.symm⟩ (apart e empty (List.prefix_append _ _))
    · refine ⟨e, ?_, by simp⟩
      cases e with
      | nil => exact stops_nil _
      | cons c e => exact ends
  · rintro ⟨rest, ends, rfl⟩
    refine ⟨rest ++ y, ?_, by simp⟩
    cases rest with
    | cons c rest => exact ends
    | nil =>
      cases y with
      | nil => exact stops_nil _
      | cons c y =>
        rw [List.nil_append, stops_cons, ← Bool.not_eq_true]
        intro letter
        refine apart [c] (by simp) (by simp) ⟨name ++ [c], by simp, ?_, by simp⟩
        simp [letters, letter]

/-- The names of two texts in a row are those of each, if no export reaches over the seam. -/
theorem exportNames_append_of_apart {x y : Text}
    (apart : ∀ z e, z ≠ [] → z <:+ x → e ≠ [] → e <+: y → ¬ IsExport (z ++ e))
    (before : Option Char) :
    exportNames before (x ++ y) = exportNames before x ++ exportNames (charBefore before x) y := by
  induction x generalizing before with
  | nil => rfl
  | cons c x ih =>
    have rest := ih (fun z e nonempty inside =>
      apart z e nonempty (inside.trans (List.suffix_cons c x))) (some c)
    have here := exportedName?_append
      (fun e => apart (c :: x) e (by simp) (List.suffix_refl _)) before
    rw [List.cons_append] at here
    simp only [List.cons_append, exportNames, here, rest, charBefore, List.append_assoc]

/-- No export reaches over the end of a line. -/
theorem exportNames_append_lines {x : Text} (begins : beginsLine (charBefore none x) = true)
    (y : Text) : exportNames none (x ++ y) = exportNames none x ++ exportNames none y := by
  have atStart : beginsLine (charBefore none x) = beginsLine none := begins
  rw [← exportNames_congr atStart y]
  refine exportNames_append_of_apart (fun z e nonempty inside _ _ => ?_) none
  rintro ⟨name, -, letters, cut⟩
  rcases beginsLine_charBefore_none.1 begins with rfl | ⟨w, rfl⟩
  · exact nonempty (List.suffix_nil.1 inside)
  · obtain ⟨z, c, rfl⟩ := (List.eq_nil_or_concat z).resolve_left nonempty
    obtain ⟨u, ended⟩ := inside
    rw [List.concat_eq_append, ← List.append_assoc] at ended
    obtain rfl := List.singleton_inj.1 (List.append_inj' ended rfl).2
    have member : '\n' ∈ ("export const " : Text) ++ name := by
      rw [← cut]
      simp
    rcases List.mem_append.1 member with lit | inName
    · exact absurd lit (by decide)
    · exact absurd (List.all_eq_true.1 letters _ inName) (by decide)

/-- A text that neither goes on with a word nor sets off the next word with a space. -/
def Detached (y : Text) : Prop :=
  Stops isIdentifierChar y ∧ ∀ t, y = ' ' :: t → Stops isIdentifierChar t

theorem detached_of_ne_space {c : Char} (other : isIdentifierChar c = false) (noSpace : c ≠ ' ')
    (s : Text) : Detached (c :: s) :=
  ⟨(stops_cons _ _ _).2 other, fun _ same => absurd (List.cons.inj same).1 noSpace⟩

/-- Each end of `export const `, with a word after it, begins with a word, perhaps after a space. -/
theorem not_detached_of_suffix {e : Text} (suffix : e <:+ "export const ") {c : Char}
    (letter : isIdentifierChar c = true) (s : Text) : ¬ Detached (e ++ c :: s) := by
  have chars : ∀ d ∈ ("export const " : Text), isIdentifierChar d = true ∨ d = ' ' := by
    have all : ("export const " : Text).all (fun d => isIdentifierChar d || d = ' ') = true := rfl
    simpa only [List.all_eq_true, Bool.or_eq_true, decide_eq_true_eq] using all
  have spaces : ¬ ([' ', ' '] : Text) <:+: "export const " := by decide
  rintro ⟨stops, spaced⟩
  rcases e with _ | ⟨d, e⟩
  · simp [letter] at stops
  · rcases chars d (suffix.subset (by simp)) with word | rfl
    · simp [word] at stops
    · have after := spaced _ rfl
      rcases e with _ | ⟨d, e⟩
      · simp [letter] at after
      · rcases chars d (suffix.subset (by simp)) with word | rfl
        · simp [word] at after
        · exact spaces (List.IsInfix.trans ⟨[], e, by simp⟩ suffix.isInfix)

/-- No export reaches over the start of a detached text. -/
theorem exportNames_append_detached {y : Text} (detached : Detached y) (before : Option Char)
    (x : Text) :
    exportNames before (x ++ y) = exportNames before x ++ exportNames (charBefore before x) y := by
  refine exportNames_append_of_apart (fun z e _ _ nonempty begun => ?_) before
  rintro ⟨name, filled, letters, cut⟩
  obtain ⟨rest, rfl⟩ := begun
  rcases List.append_eq_append_iff.1 cut with ⟨a, lit, rfl⟩ | ⟨a, rfl, rfl⟩
  · obtain ⟨c, name, rfl⟩ := List.exists_cons_of_ne_nil filled
    rw [List.all_cons, Bool.and_eq_true] at letters
    rw [List.append_assoc, List.cons_append] at detached
    exact not_detached_of_suffix ⟨z, lit.symm⟩ letters.1 _ detached
  · obtain ⟨c, e, rfl⟩ := List.exists_cons_of_ne_nil nonempty
    have other := detached.1
    simp only [List.all_append, List.all_cons, Bool.and_eq_true] at letters
    rw [List.cons_append, stops_cons, letters.2.1] at other
    cases other

/-- The names of a text's end are names of the text. -/
theorem exportNames_sublist_append (before : Option Char) (x y : Text) :
    (exportNames (charBefore before x) y).Sublist (exportNames before (x ++ y)) := by
  induction x generalizing before with
  | nil => exact List.Sublist.refl _
  | cons c x ih => exact (ih (some c)).trans (List.sublist_append_right _ _)

/-- What follows a text without going on with its last word keeps the text's names. -/
theorem exportNames_append_sublist {y : Text} (stops : Stops isIdentifierChar y)
    (before : Option Char) (x : Text) :
    (exportNames before x ++ exportNames (charBefore before x) y).Sublist
      (exportNames before (x ++ y)) := by
  induction x generalizing before with
  | nil => exact List.Sublist.refl _
  | cons c x ih =>
    have kept : (exportedName? before (c :: x)).toList.Sublist
        (exportedName? before (c :: (x ++ y))).toList := by
      cases here : exportedName? before (c :: x) with
      | none => exact List.nil_sublist _
      | some name =>
        obtain ⟨begins, nonempty, letters, rest, ends, cut⟩ := exportedName?_eq_some_iff.1 here
        have goesOn : Stops isIdentifierChar (rest ++ y) := by
          cases rest with
          | nil => exact stops
          | cons d rest => exact ends
        have longer : exportedName? before (c :: (x ++ y)) = some name :=
          exportedName?_eq_some_iff.2 ⟨begins, nonempty, letters, rest ++ y, goesOn, by
            rw [← List.cons_append, cut]
            simp⟩
        rw [longer]
    simp only [exportNames, List.cons_append, charBefore, List.append_assoc]
    exact kept.append (ih (some c))

/-! ## Lines -/

theorem ofLines_exportedName? : OfLines exportedName? := by
  intro before s inside
  simp [exportedName?, inside]

theorem exportedName?_of_ne {c : Char} (other : c ≠ 'e') (before : Option Char) (s : Text) :
    exportedName? before (c :: s) = none := by
  rw [Option.eq_none_iff_forall_ne_some]
  intro name found
  obtain ⟨-, -, -, rest, -, same⟩ := exportedName?_eq_some_iff.1 found
  exact other (List.cons.inj same).1

/-- A part in which no name is exported can be left out in front. -/
theorem exportNames_skip {before : Option Char} {x y : Text}
    (fails : FailsWithin exportedName? before x y) :
    exportNames before (x ++ y) = exportNames (charBefore before x) y := by
  induction x generalizing before with
  | nil => rfl
  | cons c x ih =>
    obtain ⟨here, rest⟩ := failsWithin_cons.1 fails
    simp only [List.cons_append, exportNames, here, Option.toList_none, List.nil_append, ih rest,
      charBefore]

/-- After its start a line exports nothing. -/
theorem exportNames_skip_inside {before : Option Char} (inside : beginsLine before = false)
    {x : Text} (noFeed : '\n' ∉ x) (y : Text) :
    exportNames before (x ++ y) = exportNames (charBefore before x) y :=
  exportNames_skip
    (ofLines_exportedName?.failsWithin_line noFeed fun _ => ofLines_exportedName? _ _ inside)

/-- A line exports one name at most, and the lines after it export theirs. -/
theorem exportNames_line_append (before : Option Char) {x : Text} (noFeed : '\n' ∉ x)
    (nonempty : x ≠ []) (y : Text) :
    exportNames before (x ++ y) =
      (exportedName? before (x ++ y)).toList ++ exportNames (charBefore before x) y := by
  cases x with
  | nil => exact absurd rfl nonempty
  | cons c x =>
    rw [List.mem_cons, not_or] at noFeed
    have inside : beginsLine (some c) = false := by simpa [beginsLine] using Ne.symm noFeed.1
    have rest := exportNames_skip_inside inside noFeed.2 y
    rw [List.cons_append, exportNames, rest]
    rfl

/-- A line that begins with no export exports nothing. -/
theorem exportNames_of_ne {before : Option Char} {c : Char} (other : c ≠ 'e') {x : Text}
    (noFeed : '\n' ∉ c :: x) (y : Text) :
    exportNames before (c :: (x ++ y)) = exportNames (charBefore (some c) x) y := by
  rw [← List.cons_append, exportNames_line_append before noFeed (by simp),
    List.cons_append, exportedName?_of_ne other]
  rfl

/-- The first name of a text that begins with an export. -/
theorem exportNames_export {before : Option Char} (begins : beginsLine before = true)
    {name s : Text} (nonempty : name ≠ []) (letters : name.all isIdentifierChar = true)
    (stops : Stops isIdentifierChar s) :
    ∃ others, exportNames before ("export const " ++ (name ++ s)) = name :: others := by
  have here : exportedName? before ("export const " ++ (name ++ s)) = some name :=
    exportedName?_eq_some_iff.2 ⟨begins, nonempty, letters, s, stops, rfl⟩
  generalize whole : ("export const " ++ (name ++ s) : Text) = text at here ⊢
  cases text with
  | nil => cases whole
  | cons c text =>
    rw [exportNames, here]
    exact ⟨_, rfl⟩

/-- It does not matter in which line a text begins that begins with the end of one. -/
theorem exportNames_atLineEnd {s : Text} (ends : atLineEnd s = true) (before : Option Char) :
    exportNames before s = exportNames none s := by
  cases s with
  | nil => rfl
  | cons c s =>
    obtain rfl : c = '\n' := by simpa [atLineEnd] using ends
    simp only [exportNames, exportedName?_of_ne (by decide : '\n' ≠ 'e')]

theorem detached_of_atLineEnd {s : Text} (ends : atLineEnd s = true) : Detached s := by
  cases s with
  | nil => exact ⟨stops_nil _, fun t same => by cases same⟩
  | cons c s =>
    obtain rfl : c = '\n' := by simpa [atLineEnd] using ends
    exact detached_of_ne_space (by decide) (by decide) s

/-- The names of a file in which whole lines stand between others. -/
theorem exportNames_lines {front block back : Text}
    (begins : beginsLine (charBefore none front) = true) (ends : atLineEnd back = true) :
    exportNames none (front ++ block ++ back) =
      exportNames none front ++ exportNames none block ++ exportNames none back := by
  rw [List.append_assoc, exportNames_append_lines begins,
    exportNames_append_detached (detached_of_atLineEnd ends), exportNames_atLineEnd ends,
    List.append_assoc]

/-! ## Generated definitions -/

variable {names : ModelNames} {fields : List Field}

theorem stops_isIdentifierChar_space (s : Text) : Stops isIdentifierChar (" " ++ s) :=
  (stops_cons _ _ _).2 (by decide)

/-- The export of an enum exports its name. -/
theorem exportNames_enumExport (plain : names.Plain) {f : Field} (oneLine : f.OneLine) :
    exportNames none (enumExport names f) = [enumName names f] := by
  have noFeed := (isOneLine_iff.1 (isOneLine_enumExport plain oneLine)).1
  have named : exportedName? none (enumExport names f ++ []) = some (enumName names f) := by
    refine exportedName?_eq_some_iff.2 ⟨rfl, ?_, ?_, " = pgEnum(" ++ enumLine names f,
      stops_isIdentifierChar_space _, ?_⟩
    · simp [enumName]
    · exact all_isIdentifierChar_of_all_isWord
        (all_isWord_of_plain (plain_enumName plain oneLine.plain))
    · rw [enumExport_eq, List.append_nil]
  have line := exportNames_line_append none noFeed (by simp [enumExport_eq]) []
  rw [named, List.append_nil] at line
  exact line

theorem exportNames_exportBlock (plain : names.Plain) {f : Field} (oneLine : f.OneLine) :
    exportNames none (exportBlock names f) = [enumName names f] := by
  unfold exportBlock
  rw [exportNames_append_detached (detached_of_atLineEnd rfl), exportNames_enumExport plain oneLine,
    exportNames_atLineEnd rfl]
  rfl

theorem exportNames_exportBlocks (plain : names.Plain) {enums : List Field}
    (oneLine : ∀ f ∈ enums, f.OneLine) :
    exportNames none (exportBlocks names enums) = enums.map (enumName names) := by
  induction enums with
  | nil => rfl
  | cons f enums ih =>
    have begins : beginsLine (charBefore none (exportBlock names f)) = true :=
      beginsLine_charBefore_none.2 (.inr ⟨enumExport names f ++ ['\n'], by simp [exportBlock]⟩)
    rw [exportBlocks, List.flatMap_cons, exportNames_append_lines begins,
      exportNames_exportBlock plain (oneLine f (by simp)), List.map_cons, List.singleton_append]
    rw [← ih fun g member => oneLine g (List.mem_cons_of_mem _ member)]
    rfl

/-- A table exports the name that it is given. -/
theorem exportNames_tableExport (oneLine : OneLineModel names fields) (dialect : Dialect)
    (options : Options) :
    exportNames none (tableExport names fields dialect options) = [names.camelPlural] := by
  have plain := oneLine.spellings
  have named : exportedName? none (tableExport names fields dialect options) =
      some names.camelPlural := by
    have text := tableExport_append names fields dialect options []
    rw [List.append_nil] at text
    rw [text]
    exact exportedName?_eq_some_iff.2 ⟨rfl, plain.nonempty, all_isIdentifierChar_of_all_isWord
      (all_isWord_of_plain plain.camelPlural), _, stops_isIdentifierChar_space _, rfl⟩
  have noFeed : '\n' ∉ tableHeader names dialect := by
    have camel := plain.camelPlural.not_mem (c := '\n') rfl
    have table := plain.table.not_mem (c := '\n') rfl
    have builder := not_mem_feed_of_all_isWord (tableBuilder_letters dialect).2
    unfold tableHeader
    simp [camel, table, builder]
  have quote : charBefore none (tableHeader names dialect) = some '"' := by
    unfold tableHeader
    rw [show ("\"" : Text) = ['"'] from rfl, charBefore_concat]
  have body : FailsWithin exportedName? (some '"')
      (tableBody names fields dialect options ++ ['\n']) tableEnd :=
    ofLines_exportedName?.failsWithin_indented
      (fun before s => exportedName?_of_ne (by decide) before s) rfl
      (isIndented_tableBody oneLine dialect options)
  have nonempty : tableHeader names dialect ≠ [] := by
    intro empty
    rw [empty] at quote
    cases quote
  rw [tableExport_eq] at named ⊢
  rw [exportNames_line_append none noFeed nonempty, named, quote, ← List.singleton_append,
    ← List.append_assoc, exportNames_skip body, charBefore_concat]
  rfl

/-- The names that the definitions of a model export: those of its enums, and that of its table. -/
theorem exportNames_definitions (oneLine : OneLineModel names fields) (dialect : Dialect)
    (options : Options) :
    exportNames none (definitions names fields dialect options) =
      (exportedEnums fields dialect).map (enumName names) ++ [names.camelPlural] := by
  have begins : beginsLine
      (charBefore none (exportBlocks names (exportedEnums fields dialect))) = true :=
    beginsLine_exportBlocks rfl names _
  rw [definitions_eq, exportNames_append_lines begins, exportNames_tableExport oneLine,
    exportNames_exportBlocks oneLine.spellings (oneLine_of_mem_exportedEnums oneLine dialect)]

end Groundwork.Schema
