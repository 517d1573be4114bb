import Groundwork.Proofs.Text.Search
import Groundwork.Schema.TableBlock

/-!
# Calls in source text

The words that a text calls, each with what follows its parenthesis. Both questions that are asked
about a schema file by its calls, whether it has a table (`hasTable_iff_calls`) and which enums a
block uses (`enumCallsAfter_eq`), are questions about this list, and the list of a text is put
together from those of its parts (`callsAfter_append`).
-/

namespace Groundwork.Schema

open Text

/-- The word that a text ends in, in reverse, where `word` stands in reverse before the text. -/
def lastWord (word : Text) : Text → Text
  | [] => word
  | c :: s => if isWord c then lastWord (c :: word) s else lastWord [] s

/-- The words before a parenthesis, each with what follows it; `word` stands in reverse before the
    text. -/
def callsAfter (word : Text) : Text → List (Text × Text)
  | [] => []
  | c :: s =>
    if isWord c then callsAfter (c :: word) s
    else if c = '(' then (word.reverse, s) :: callsAfter [] s
    else callsAfter [] s

/-- The words that are called. -/
def calledNames (word s : Text) : List Text := (callsAfter word s).map Prod.fst

theorem lastWord_append (word a b : Text) :
    lastWord word (a ++ b) = lastWord (lastWord word a) b := by
  fun_induction lastWord word a with
  | case1 word => rfl
  | case2 word c a isWord ih => simp [lastWord, isWord, ih]
  | case3 word c a notWord ih => simp [lastWord, notWord, ih]

/-- The calls of two texts in a row: what follows the first ones goes on with the second text. -/
theorem callsAfter_append (word a b : Text) :
    callsAfter word (a ++ b) =
      (callsAfter word a).map (fun call => (call.1, call.2 ++ b)) ++
        callsAfter (lastWord word a) b := by
  fun_induction callsAfter word a with
  | case1 word => simp [lastWord]
  | case2 word c a isWord ih => simp [lastWord, callsAfter, isWord, ih]
  | case3 word a notWord ih => simp [lastWord, callsAfter, notWord, ih]
  | case4 word c a notWord other ih => simp [lastWord, callsAfter, notWord, other, ih]

theorem calledNames_append (word a b : Text) :
    calledNames word (a ++ b) = calledNames word a ++ calledNames (lastWord word a) b := by
  simp [calledNames, callsAfter_append, Function.comp_def]

/-- A word in front of another text is taken up in reverse. -/
theorem lastWord_of_word {name : Text} (letters : name.all isWord = true) (word : Text) :
    lastWord word name = name.reverse ++ word := by
  induction name generalizing word with
  | nil => rfl
  | cons c name ih =>
    rw [List.all_cons, Bool.and_eq_true] at letters
    simp [lastWord, letters.1, ih letters.2 (c :: word)]

/-- No word goes on after a character that belongs to none. -/
theorem lastWord_concat {c : Char} (notWord : isWord c = false) (word a : Text) :
    lastWord word (a ++ [c]) = [] := by
  rw [lastWord_append]
  simp [lastWord, notWord]

theorem callsAfter_of_not_mem {a : Text} (none : '(' ∉ a) (word : Text) :
    callsAfter word a = [] := by
  induction a generalizing word with
  | nil => rfl
  | cons c a ih =>
    have rest := ih (fun member => none (List.mem_cons_of_mem _ member))
    have other : c ≠ '(' := by
      rintro rfl
      simp at none
    simp [callsAfter, rest, other]

theorem calledNames_of_not_mem {a : Text} (none : '(' ∉ a) (word : Text) :
    calledNames word a = [] := by
  simp [calledNames, callsAfter_of_not_mem none]

/-- A text without calls that ends no word can be passed over. -/
theorem callsAfter_skip {a : Text} {c : Char} (none : '(' ∉ a ++ [c]) (notWord : isWord c = false)
    (word b : Text) : callsAfter word (a ++ [c] ++ b) = callsAfter [] b := by
  rw [callsAfter_append, callsAfter_of_not_mem none, lastWord_concat notWord]
  rfl

/-- A call. -/
theorem callsAfter_call {name : Text} (letters : name.all isWord = true) (args : Text) :
    callsAfter [] (name ++ '(' :: args) = (name, args) :: callsAfter [] args := by
  rw [callsAfter_append, callsAfter_of_not_mem, lastWord_of_word letters]
  · have notWord : isWord '(' = false := by decide
    simp [callsAfter, notWord]
  · intro member
    exact absurd (List.all_eq_true.1 letters _ member) (by decide)

theorem calledNames_skip {a : Text} {c : Char} (none : '(' ∉ a ++ [c]) (notWord : isWord c = false)
    (word b : Text) : calledNames word (a ++ [c] ++ b) = calledNames [] b := by
  rw [calledNames, callsAfter_skip none notWord]
  rfl

theorem calledNames_call {name : Text} (letters : name.all isWord = true) (args : Text) :
    calledNames [] (name ++ '(' :: args) = name :: calledNames [] args := by
  rw [calledNames, callsAfter_call letters]
  rfl

/-- The calls of a text are its parentheses, each with the word before it. -/
theorem mem_callsAfter_iff {word s name rest : Text} :
    (name, rest) ∈ callsAfter word s ↔
      ∃ front, s = front ++ '(' :: rest ∧ name = (lastWord word front).reverse := by
  have notWord : isWord '(' = false := by decide
  constructor
  · intro member
    fun_induction callsAfter word s with
    | case1 word => simp at member
    | case2 word c s isWord ih =>
      obtain ⟨front, rfl, rfl⟩ := ih member
      exact ⟨c :: front, rfl, by simp [lastWord, isWord]⟩
    | case3 word s _ ih =>
      rcases List.mem_cons.1 member with here | later
      · simp only [Prod.mk.injEq] at here
        obtain ⟨rfl, rfl⟩ := here
        exact ⟨[], rfl, rfl⟩
      · obtain ⟨front, rfl, rfl⟩ := ih later
        exact ⟨'(' :: front, rfl, by simp [lastWord, notWord]⟩
    | case4 word c s _ other ih =>
      obtain ⟨front, rfl, rfl⟩ := ih member
      exact ⟨c :: front, rfl, by simp_all [lastWord]⟩
  · rintro ⟨front, rfl, rfl⟩
    rw [callsAfter_append]
    simp [callsAfter, notWord]

/-- A word after another character, with a parenthesis behind it, is called. -/
theorem mem_callsAfter_word {c : Char} (notWord : isWord c = false) {name : Text}
    (letters : name.all isWord = true) (a rest : Text) :
    (name, rest) ∈ callsAfter [] (a ++ c :: (name ++ '(' :: rest)) := by
  refine mem_callsAfter_iff.2 ⟨a ++ [c] ++ name, by simp, ?_⟩
  rw [lastWord_append, lastWord_concat notWord, lastWord_of_word letters]
  simp

/-! ## Enums and tables -/

/-- The word ends in `ending` and is longer. -/
def hasStem (ending name : Text) : Bool := (before? ending name).any fun stem => !stem.isEmpty

theorem hasStem_iff {ending name : Text} :
    hasStem ending name = true ↔ ∃ stem, stem ≠ [] ∧ name = stem ++ ending := by
  simp only [hasStem, Option.any_eq_true, before?_eq_some_iff]
  constructor
  · rintro ⟨stem, same, longer⟩
    exact ⟨stem, by simpa using longer, same⟩
  · rintro ⟨stem, longer, same⟩
    exact ⟨stem, same, by simpa using longer⟩

/-- The word names an enum, as far as its ending shows. -/
def isEnumWord (name : Text) : Bool := hasStem "Enum" name

/-- The word names a builder of tables, as far as its ending shows. -/
def isTableWord (name : Text) : Bool := hasStem "Table" name

/-- The enums that a text calls are the words among its calls that end so. -/
theorem enumCallsAfter_eq (word s : Text) :
    enumCallsAfter word s = (calledNames word s).filter isEnumWord := by
  unfold calledNames
  fun_induction callsAfter word s with
  | case1 word => rfl
  | case2 word c s isWord ih => simp [enumCallsAfter, isWord, ih]
  | case3 word s notWord ih =>
    rw [List.map_cons, List.filter_cons, ← ih]
    cases stem : isEnumWord word.reverse with
    | true => exact (if_neg notWord).trans (if_pos stem)
    | false =>
      have other : ¬ isEnumWord word.reverse = true := Bool.eq_false_iff.1 stem
      exact (if_neg notWord).trans (if_neg other)
  | case4 word c s notWord other ih => simp [enumCallsAfter, notWord, other, ih]

theorem tableCallAt?_eq_some_iff {table s : Text} {before : Option Char} :
    tableCallAt? table before s = some () ↔
      before.any isWord = true ∧
        ∃ rest, s = "Table(" ++ rest ∧ (afterTableName? table rest).isSome = true := by
  unfold tableCallAt?
  split
  · next word =>
    simp only [Option.bind_eq_bind, Option.bind_eq_some_iff, after?_eq_some_iff, word, true_and,
      Option.isSome_iff_exists, Option.pure_def, and_true]
  · next notWord => simp [notWord]

/-- The word before a place goes on from the character before it. -/
theorem lastWord_eq_nil_iff {front : Text} :
    lastWord [] front = [] ↔ (charBefore none front).any isWord = false := by
  rcases List.eq_nil_or_concat front with rfl | ⟨front, c, rfl⟩
  · simp [lastWord, charBefore]
  · rw [List.concat_eq_append, charBefore_concat, lastWord_append]
    by_cases word : isWord c = true <;> simp [lastWord, word]

/-- A text ends with the word that it ends in. -/
theorem exists_append_lastWord (word front : Text) :
    ∃ x, word.reverse ++ front = x ++ (lastWord word front).reverse := by
  fun_induction lastWord word front with
  | case1 word => exact ⟨[], by simp⟩
  | case2 word c s isWord ih =>
    obtain ⟨x, same⟩ := ih
    exact ⟨x, by simpa using same⟩
  | case3 word c s notWord ih =>
    obtain ⟨x, same⟩ := ih
    exact ⟨word.reverse ++ c :: x, by simpa using same⟩

theorem isWord_of_mem_lastWord {word front : Text} (letters : ∀ c ∈ word, isWord c = true) :
    ∀ c ∈ lastWord word front, isWord c = true := by
  fun_induction lastWord word front with
  | case1 word => exact letters
  | case2 word c s here ih =>
    apply ih
    intro d member
    rcases List.mem_cons.1 member with rfl | member
    · exact here
    · exact letters d member
  | case3 word c s notWord ih => exact ih (by simp)

theorem charBefore_of_lastWord {front stem ending : Text} (nonempty : stem ≠ [])
    (same : (lastWord [] front).reverse = stem ++ ending) :
    ∃ x, front = x ++ ending ∧ (charBefore none x).any isWord = true := by
  obtain ⟨x, cut⟩ := exists_append_lastWord [] front
  rw [same] at cut
  refine ⟨x ++ stem, by simpa using cut, ?_⟩
  rcases List.eq_nil_or_concat stem with rfl | ⟨stem, c, rfl⟩
  · exact absurd rfl nonempty
  · rw [List.concat_eq_append, ← List.append_assoc, charBefore_concat]
    have letter := isWord_of_mem_lastWord (by simp) c
      (List.mem_reverse.1 (show c ∈ (lastWord [] front).reverse by simp [same]))
    simpa using letter

/-- A name is called by the text as that of a table if a builder of tables is called with it. -/
theorem hasTable_iff_calls {content table : Text} :
    hasTable content table = true ↔
      ∃ call ∈ callsAfter [] content,
        isTableWord call.1 = true ∧ (afterTableName? table call.2).isSome = true := by
  rw [hasTable, search_isSome_iff]
  constructor
  · rintro ⟨front, s, rfl, here⟩
    obtain ⟨⟨⟩, here⟩ := Option.isSome_iff_exists.1 here
    obtain ⟨word, rest, rfl, named⟩ := tableCallAt?_eq_some_iff.1 here
    refine ⟨((lastWord [] (front ++ "Table")).reverse, rest), ?_, ?_, named⟩
    · exact mem_callsAfter_iff.2 ⟨front ++ "Table", by simp, rfl⟩
    · rw [isTableWord, hasStem_iff]
      refine ⟨(lastWord [] front).reverse, ?_, ?_⟩
      · intro empty
        rw [List.reverse_eq_nil_iff, lastWord_eq_nil_iff] at empty
        simp [word] at empty
      · rw [lastWord_append, lastWord_of_word (by decide)]
        simp
  · rintro ⟨⟨name, rest⟩, call, stem, named⟩
    obtain ⟨front, rfl, rfl⟩ := mem_callsAfter_iff.1 call
    obtain ⟨stem, nonempty, same⟩ := hasStem_iff.1 stem
    obtain ⟨x, rfl, word⟩ := charBefore_of_lastWord nonempty same
    have here := tableCallAt?_eq_some_iff.2 ⟨word, rest, rfl, named⟩
    exact ⟨x, "Table(" ++ rest, by simp, Option.isSome_iff_exists.2 ⟨(), here⟩⟩

/-- Text that calls no builder of tables and ends no word has no table. -/
theorem hasTable_append_of_not_isTableWord {a : Text} (ended : lastWord [] a = [])
    (none : ∀ name ∈ calledNames [] a, isTableWord name = false) (b table : Text) :
    hasTable (a ++ b) table = true ↔ hasTable b table = true := by
  rw [hasTable_iff_calls, hasTable_iff_calls, callsAfter_append, ended]
  constructor
  · rintro ⟨call, member, stem, named⟩
    rcases List.mem_append.1 member with inFront | later
    · obtain ⟨own, listed, rfl⟩ := List.mem_map.1 inFront
      have other := none own.1 (List.mem_map_of_mem listed)
      simp [other] at stem
    · exact ⟨call, later, stem, named⟩
  · rintro ⟨call, member, found⟩
    exact ⟨call, List.mem_append_right _ member, found⟩

end Groundwork.Schema
