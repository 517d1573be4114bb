import Groundwork.Proofs.Schema.Definition
import Groundwork.Proofs.Schema.Statement

/-!
# Exports of generated enums

Each enum of a model is exported on a line of its own with an empty line after it. Dropping an
enum's export takes both lines out and nothing else (`dropEnumExport_exportBlock`), and dropping all
enums of a model in any order takes out all of these lines (`foldl_dropEnumExport`).
-/

namespace Groundwork.Schema

open Text

variable {names : ModelNames} {f : Field}

/-- The export of a field's enum with the empty line after it. -/
def exportBlock (names : ModelNames) (f : Field) : Text := enumExport names f ++ "\n\n"

/-- The exports of the enums of several fields. -/
def exportBlocks (names : ModelNames) (enums : List Field) : Text :=
  enums.flatMap (exportBlock names)

/-- What stands between the parenthesis of an enum's export and the end of its line. -/
def enumLine (names : ModelNames) (f : Field) : Text :=
  "\"" ++ names.snake ++ "_" ++ Naming.snake f.name ++ "\", [" ++ choiceLiterals f ++ "]);"

theorem enumExport_eq (names : ModelNames) (f : Field) :
    enumExport names f =
      "export const " ++ (enumName names f ++ (" = pgEnum(" ++ enumLine names f)) := by
  unfold enumExport enumLine
  simp

theorem isOneLine_enumLine (plain : names.Plain) (oneLine : f.OneLine) :
    isOneLine (enumLine names f) = true := by
  unfold enumLine
  simp [isOneLine_of_plain plain.snake, isOneLine_of_plain (Naming.Plain.snake oneLine.plain),
    isOneLine_choiceLiterals oneLine]

theorem isOneLine_enumExport (plain : names.Plain) (oneLine : f.OneLine) :
    isOneLine (enumExport names f) = true := by
  rw [enumExport_eq]
  simp [isOneLine_of_plain (plain_enumName plain oneLine.plain), isOneLine_enumLine plain oneLine]

theorem endsWith_enumLine (names : ModelNames) (f : Field) :
    endsWith ");" ((enumLine names f).reverse.dropWhile isSpaceOrTab).reverse = true := by
  have text : enumLine names f = ("\"" ++ names.snake ++ "_" ++ Naming.snake f.name ++ "\", ["
      ++ choiceLiterals f ++ "]") ++ ");" := by
    unfold enumLine
    simp
  have run : (enumLine names f).reverse.dropWhile isSpaceOrTab = (enumLine names f).reverse := by
    refine dropWhile_eq_iff.2 ⟨[], rfl, rfl, ?_⟩
    rw [text, List.reverse_append]
    exact (stops_cons _ _ _).2 (by decide)
  rw [run, List.reverse_reverse, endsWith_iff, text]
  exact List.suffix_append _ _

/-- The export of an enum that is generated is one of the ways to write it. -/
def generatedExport (names : ModelNames) (f : Field) (plain : names.Plain) (oneLine : f.OneLine) :
    EnumExport where
  gap := " "
  space := " "
  line := enumLine names f
  gap_blank := rfl
  space_blank := rfl
  line_noFeed := (isOneLine_iff.1 (isOneLine_enumLine plain oneLine)).1
  line_closed := endsWith_enumLine names f

/-- The export of an enum is recognised with the empty line after it. -/
theorem afterEnumExport?_exportBlock (plain : names.Plain) (oneLine : f.OneLine)
    {before : Option Char} (begins : beginsLine before = true) (s : Text) :
    afterEnumExport? (enumName names f) before (exportBlock names f ++ s) = some s := by
  refine afterEnumExport?_eq_some_iff.2 ⟨begins, generatedExport names f plain oneLine, '\n' :: s,
    ?_, rfl⟩
  unfold exportBlock EnumExport.text generatedExport
  rw [enumExport_eq]
  simp

theorem enumExport_append (names : ModelNames) (f : Field) (s : Text) :
    enumExport names f ++ s = "export const " ++ (enumName names f ++ (" = " ++ ("pgEnum" ++
      ("(" ++ (enumLine names f ++ s))))) := by
  rw [enumExport_eq]
  simp

/-- The export of another enum is not taken for the export of an enum. -/
theorem afterEnumExport?_enumExport_of_ne (plain : names.Plain) (oneLine : f.OneLine) {name : Text}
    (letters : name.all isWord = true) (other : enumName names f ≠ name) (before : Option Char)
    (s : Text) : afterEnumExport? name before (enumExport names f ++ s) = none := by
  rw [Option.eq_none_iff_forall_ne_some]
  intro rest found
  obtain ⟨-, e, tail, same, -⟩ := afterEnumExport?_eq_some_iff.1 found
  rw [enumExport_append] at same
  exact other (e.parts (all_isWord_of_plain (plain_enumName plain oneLine.plain)) (by simp) (by decide)
    letters same).1

/-- The export of an enum opens no block of a table. -/
theorem headerAt?_enumExport (plain : names.Plain) (oneLine : f.OneLine) (table : Text)
    (before : Option Char) (s : Text) :
    headerAt? table before (enumExport names f ++ s) = none := by
  rw [Option.eq_none_iff_forall_ne_some]
  intro rest found
  obtain ⟨-, h, same⟩ := headerAt?_eq_some_iff.1 found
  rw [enumExport_append] at same
  have builder := (h.parts (all_isWord_of_plain (plain_enumName plain oneLine.plain)) (by simp)
    (by decide) same).1
  have stem := h.builder_table
  rw [← builder] at stem
  exact absurd stem (by decide)

/-! ## Exports in a row -/

variable {recognise : Option Char → Text → Option Text}

theorem exports_exportBlock (names : ModelNames) (f : Field) (s : Text) :
    Exports (exportBlock names f ++ s) := by
  unfold exportBlock
  rw [List.append_assoc, enumExport_append]
  exact .inr (export_of_constant _)

theorem exports_exportBlocks (names : ModelNames) (enums : List Field) {s : Text}
    (exports : Exports s) : Exports (exportBlocks names enums ++ s) := by
  cases enums with
  | nil => exact exports
  | cons f enums =>
    rw [exportBlocks, List.flatMap_cons, List.append_assoc]
    exact exports_exportBlock names f _

theorem beginsLine_exportBlocks {before : Option Char} (begins : beginsLine before = true)
    (names : ModelNames) (enums : List Field) :
    beginsLine (charBefore before (exportBlocks names enums)) = true :=
  beginsLine_flatMap begins fun f _ => ⟨enumExport names f ++ ['\n'], by simp [exportBlock]⟩

/-- The exports of enums call the builder of enums only, and end no word. -/
theorem calledNames_exportBlocks (plain : names.Plain) {enums : List Field}
    (inline : ∀ f ∈ enums, f.Inline) :
    (∀ name ∈ calledNames [] (exportBlocks names enums), name = "pgEnum") ∧
      lastWord [] (exportBlocks names enums) = [] := by
  induction enums with
  | nil => exact ⟨by simp [exportBlocks, calledNames, callsAfter], rfl⟩
  | cons f enums ih =>
    obtain ⟨names', last⟩ := ih fun g member => inline g (List.mem_cons_of_mem _ member)
    have enum := (plain_enumName plain (inline f (by simp)).plain).not_mem (c := '(') rfl
    have snake := plain.snake.not_mem (c := '(') rfl
    have column := (Naming.Plain.snake (inline f (by simp)).plain).not_mem (c := '(') rfl
    have choices := not_mem_choiceLiterals (inline f (by simp))
    have ended : lastWord [] (exportBlock names f) = [] := by
      unfold exportBlock
      rw [lastWord_append]
      rfl
    have block : calledNames [] (exportBlock names f) = [("pgEnum" : Text)] := by
      have text : exportBlock names f = "export const " ++ enumName names f ++ " =" ++ [' '] ++
          ("pgEnum" ++ '(' :: (enumLine names f ++ "\n\n")) := by
        unfold exportBlock
        rw [enumExport_eq]
        simp
      have line : '(' ∉ enumLine names f ++ "\n\n" := by
        unfold enumLine
        simp [snake, column, choices]
      rw [text, calledNames_skip (by simp [enum]) (by decide), calledNames_call (by decide),
        calledNames_of_not_mem line]
    rw [exportBlocks, List.flatMap_cons, calledNames_append, lastWord_append, block, ended]
    refine ⟨fun name member => ?_, last⟩
    rcases List.mem_append.1 member with here | later
    · exact List.mem_singleton.1 here
    · exact names' name later

/-- A recogniser finds nothing in exports of enums that it does not take for its own. -/
theorem inert_exportBlocks (exports : RecognisesExports recognise) (plain : names.Plain)
    {enums : List Field} (oneLine : ∀ f ∈ enums, f.OneLine)
    (fails : ∀ f ∈ enums, ∀ before s, recognise before (enumExport names f ++ s) = none) :
    Inert recognise (exportBlocks names enums) := by
  refine Inert.flatMap fun f member => ?_
  have line := exports.inert_line
    (isOneLine_iff.1 (isOneLine_enumExport plain (oneLine f member))).1 (fails f member)
  exact line.append (exports.inert_feed.append exports.inert_feed)

/-- Dropping the export of an enum takes out its line and the empty line after it. -/
theorem dropEnumExport_exportBlock (plain : names.Plain) (oneLine : f.OneLine) {p : Text}
    (begins : beginsLine (charBefore none p) = true)
    (free : Free (afterEnumExport? (enumName names f)) p) (s : Text) :
    dropEnumExport (p ++ (exportBlock names f ++ s)) (enumName names f) = p ++ s := by
  have noFeed := (plain_enumName plain oneLine.plain).not_mem (c := '\n') rfl
  have fails := (recognisesExports_afterEnumExport? noFeed).failsWithin begins free
    (exports_exportBlock names f s)
  have found := search_eq_some_iff.2 ⟨_, rfl, fails,
    afterEnumExport?_exportBlock plain oneLine begins s⟩
  unfold dropEnumExport
  rw [found]

/-- The exports of other enums do not bring in the export of an enum. -/
theorem free_append_exportBlocks (plain : names.Plain) (oneLine : f.OneLine) {others : List Field}
    (oneLineOthers : ∀ g ∈ others, g.OneLine)
    (apart : ∀ g ∈ others, enumName names g ≠ enumName names f) {p : Text}
    (begins : beginsLine (charBefore none p) = true)
    (free : Free (afterEnumExport? (enumName names f)) p) :
    Free (afterEnumExport? (enumName names f)) (p ++ exportBlocks names others) := by
  have letters := all_isWord_of_plain (plain_enumName plain oneLine.plain)
  have exports := recognisesExports_afterEnumExport? (not_mem_feed_of_all_isWord letters)
  have inert : Inert (afterEnumExport? (enumName names f)) (exportBlocks names others) :=
    inert_exportBlocks exports plain oneLineOthers fun g inside before s =>
      afterEnumExport?_enumExport_of_ne plain (oneLineOthers g inside) letters (apart g inside)
        before s
  have follows : Exports (exportBlocks names others) := by
    simpa using exports_exportBlocks names others (s := []) (.inl rfl)
  exact exports.free_append begins free inert follows

/-- Dropping all enums of a model, in any order, takes out all of their lines. -/
theorem foldl_dropEnumExport (plain : names.Plain) {enums : List Field} {dropped : List Text}
    (oneLine : ∀ f ∈ enums, f.OneLine) (distinct : (enums.map (enumName names)).Nodup)
    (perm : dropped.Perm (enums.map (enumName names))) {p : Text}
    (begins : beginsLine (charBefore none p) = true)
    (free : ∀ f ∈ enums, Free (afterEnumExport? (enumName names f)) p) {s : Text} :
    dropped.foldl dropEnumExport (p ++ (exportBlocks names enums ++ s)) = p ++ s := by
  induction dropped generalizing enums with
  | nil =>
    have none : enums = [] := by simpa using perm.nil_eq
    subst none
    rfl
  | cons name dropped ih =>
    -- the enum that is dropped first stands somewhere among the exports
    obtain ⟨f, member, rfl⟩ := List.mem_map.1 (perm.subset (List.mem_cons_self))
    obtain ⟨earlier, later, rfl⟩ := List.append_of_mem member
    have others : ∀ g ∈ earlier ++ later, g ∈ earlier ++ f :: later := by
      intro g inside
      rcases List.mem_append.1 inside with inside | inside <;> simp [inside]
    rw [List.map_append, List.map_cons] at distinct perm
    have apart : ∀ g ∈ earlier, enumName names g ≠ enumName names f := by
      intro g inside same
      have disjoint := (List.nodup_append.1 distinct).2.2 (enumName names g)
        (List.mem_map_of_mem inside) (enumName names f) (by simp)
      exact disjoint same
    have freeFront := free_append_exportBlocks plain (oneLine f member)
      (fun g inside => oneLine g (by simp [inside])) apart begins (free f member)
    have beginsFront : beginsLine (charBefore none (p ++ exportBlocks names earlier)) = true := by
      rw [charBefore_append]
      exact beginsLine_exportBlocks begins names earlier
    have here := dropEnumExport_exportBlock plain (oneLine f member) beginsFront freeFront
      (exportBlocks names later ++ s)
    have text : p ++ (exportBlocks names (earlier ++ f :: later) ++ s) =
        p ++ exportBlocks names earlier ++ (exportBlock names f ++
          (exportBlocks names later ++ s)) := by
      simp [exportBlocks]
    have rest : p ++ exportBlocks names earlier ++ (exportBlocks names later ++ s) =
        p ++ (exportBlocks names (earlier ++ later) ++ s) := by
      simp [exportBlocks]
    rw [List.foldl_cons, text, here, rest]
    apply ih (fun g inside => oneLine g (others g inside))
    · rw [List.map_append]
      exact (distinct.sublist (by simp))
    · rw [List.map_append]
      exact List.Perm.cons_inv (perm.trans List.perm_middle)
    · exact fun g inside => free g (others g inside)

end Groundwork.Schema
