import Groundwork.Proofs.Naming.RoundTrip
import Groundwork.Proofs.Schema.Listing

/-!
# Names of database columns

A table's columns have names of their own in the database, which stand in quotes after their
builders. They are read off the text of the table (`declaredColumns_tableExport`); two fields of one
model never get the same name, and no name is a word of SQL (`databaseNames_apart`), since a field's
name is told by its spelling with low lines.
-/

namespace Groundwork

open Text

namespace Schema

variable {names : ModelNames} {fields : List Field} {f : Field} {dialect : Dialect}
  {options : Options}

/-! ## Reading columns -/

/-- The characters that end the word after a colon. -/
def endsWord (c : Char) : Bool := c = '"' || c = '(' || c = ')'

/-- The text in quotes that a call begins with. -/
def calledWith? (s : Text) : Option Text := do
  let s ← after? "(\"" s
  match s.span (· ≠ '"') with
  | (name, '"' :: _) => some name
  | _ => none

/-- The name of the column that a property declares, read from what follows the property's colon:
    the text that its builder is called with. -/
def columnName? (s : Text) : Option Text := do
  let s ← after? " " s
  calledWith? (s.span fun c => !endsWord c).2

/-- The names of the columns that a text declares. -/
def declaredColumns : Text → List Text
  | [] => []
  | c :: s => (if c = ':' then (columnName? s).toList else []) ++ declaredColumns s

/-- The text declares the columns, whatever follows it. -/
def Declares (text : Text) (columns : List Text) : Prop :=
  ∀ rest, declaredColumns (text ++ rest) = columns ++ declaredColumns rest

section Declares

variable {s t word column : Text} {columns others : List Text} {c : Char}

theorem Declares.append (first : Declares s columns) (second : Declares t others) :
    Declares (s ++ t) (columns ++ others) := by
  intro rest
  rw [List.append_assoc, first, second, List.append_assoc]

theorem declares_of_not_mem (noColon : ':' ∉ s) : Declares s [] := by
  intro rest
  induction s with
  | nil => rfl
  | cons c s ih =>
    have other : c ≠ ':' := by
      rintro rfl
      simp at noColon
    rw [List.cons_append, declaredColumns, if_neg other,
      ih fun member => noColon (List.mem_cons_of_mem _ member)]
    rfl

theorem declares_colon {found : Option Text} (noColon : ':' ∉ s)
    (read : ∀ rest, columnName? (s ++ rest) = found) : Declares (':' :: s) found.toList := by
  intro rest
  rw [List.cons_append, declaredColumns, if_pos rfl, read, declares_of_not_mem noColon]
  rfl

theorem columnName?_word (letters : ∀ d ∈ word, endsWord d = false) (ends : endsWord c = true)
    (rest : Text) : columnName? (" " ++ word ++ c :: rest) = calledWith? (c :: rest) := by
  have cut : (word ++ c :: rest).span (fun c => !endsWord c) = (word, c :: rest) := by
    refine span_eq_iff.2 ⟨rfl, ?_, by simp [ends]⟩
    rw [List.all_eq_true]
    intro d member
    simp [letters d member]
  unfold columnName?
  rw [after?_eq_some_iff.2 (List.append_assoc _ _ _), Option.bind_eq_bind, Option.bind_some, cut]

/-- A property declares the column whose name its builder is called with. -/
theorem declares_column (letters : ∀ d ∈ word, endsWord d = false) (noColon : ':' ∉ word)
    (quoted : '"' ∉ column) (named : ':' ∉ column) :
    Declares (": " ++ word ++ "(\"" ++ column ++ "\"") [column] := by
  have cut (rest : Text) : (column ++ '"' :: rest).span (· ≠ '"') = (column, '"' :: rest) :=
    span_ne_eq_iff.2 ⟨rfl, quoted⟩
  have read (rest : Text) :
      columnName? (" " ++ word ++ "(\"" ++ column ++ "\"" ++ rest) = some column := by
    have called : calledWith? ("(\"" ++ (column ++ '"' :: rest)) = some column := by
      unfold calledWith?
      rw [after?_eq_some_iff.2 rfl, Option.bind_eq_bind, Option.bind_some, cut]
      rfl
    rw [← called]
    exact (congrArg columnName? (by simp)).trans
      (columnName?_word (c := '(') letters rfl ('"' :: (column ++ '"' :: rest)))
  have silent : ':' ∉ " " ++ word ++ "(\"" ++ column ++ "\"" := by simp [noColon, named]
  exact declares_colon silent read

/-- A setting whose value is no call declares nothing. -/
theorem declares_setting (letters : ∀ d ∈ word, endsWord d = false) (noColon : ':' ∉ word)
    (ends : endsWord c = true) (noCall : c ≠ '(') (other : c ≠ ':') :
    Declares (": " ++ word ++ [c]) [] := by
  have read (rest : Text) : columnName? (" " ++ word ++ [c] ++ rest) = none := by
    have closed : calledWith? (c :: rest) = none := by
      unfold calledWith?
      rw [show after? "(\"" (c :: rest) = none from if_neg noCall.symm]
      rfl
    rw [← closed]
    exact (congrArg columnName? (by simp)).trans (columnName?_word letters ends rest)
  have silent : ':' ∉ " " ++ word ++ [c] := by simp [noColon, other.symm]
  exact declares_colon silent read

/-- Lines declare what each of them declares. -/
theorem declares_intercalate {lines : List Text} {declared : List (List Text)}
    (each : List.Forall₂ Declares lines declared) :
    Declares (List.intercalate ['\n'] lines) declared.flatten := by
  have feed : Declares ['\n'] [] := declares_of_not_mem (by decide)
  induction each with
  | nil => exact declares_of_not_mem (by simp)
  | @cons line columns lines declared here others ih =>
    cases lines with
    | nil =>
      cases others
      simpa using here
    | cons next lines =>
      rw [List.intercalate_cons_cons, List.append_assoc, List.flatten_cons]
      exact here.append (feed.append ih)

end Declares

/-! ## Columns of fields -/

theorem endsWord_of_isNameChar {c : Char} (letter : IsNameChar c) : endsWord c = false := by
  rw [Bool.eq_false_iff]
  intro ends
  simp only [endsWord, Bool.or_eq_true, decide_eq_true_eq] at ends
  rcases ends with (rfl | rfl) | rfl <;> exact absurd letter (by decide)

theorem alphanumeric_sized (dialect : Dialect) (kind : FieldKind) :
    (ColumnType.sized dialect kind).builder.all Char.isAlphanum = true := by
  cases dialect <;> cases kind <;> rfl

theorem alphanumeric_referenceType (dialect : Dialect) (uuid : Bool) :
    (referenceType dialect uuid).builder.all Char.isAlphanum = true := by
  cases dialect <;> cases uuid <;> rfl

/-- The builder of a column is a word. -/
theorem isNameChar_columnBuilder (camel : ∀ c ∈ names.camel, IsNameChar c)
    (name : ∀ c ∈ f.name, IsNameChar c) (dialect : Dialect) (options : Options) :
    ∀ c ∈ columnBuilder names f dialect options, IsNameChar c := by
  have letters {builder : Text} (all : builder.all Char.isAlphanum = true) :
      ∀ c ∈ builder, IsNameChar c :=
    fun c member => .inl (List.all_eq_true.1 all c member)
  unfold columnBuilder
  split
  · cases dialect
    · exact letters rfl
    · intro c member
      rcases List.mem_append.1 member with spelled | ending
      · rcases List.mem_append.1 spelled with model | field
        · exact camel c model
        · exact Naming.isNameChar_pascal name c field
      · exact (letters rfl : ∀ c ∈ ("Enum" : Text), IsNameChar c) c ending
    · exact letters rfl
  · split
    · exact letters (alphanumeric_referenceType _ _)
    · exact letters (alphanumeric_sized _ _)

/-- What follows the name of a column up to the end of its builder's call declares nothing. -/
theorem declares_settings_sized (dialect : Dialect) (kind : FieldKind) :
    Declares ((match (ColumnType.sized dialect kind).settings with
      | none => ""
      | some settings => ", " ++ settings : Text) ++ ")") [] := by
  intro rest
  cases dialect <;> cases kind <;> rfl

theorem declares_settings_referenceType (dialect : Dialect) (uuid : Bool) :
    Declares ((match (referenceType dialect uuid).settings with
      | none => ""
      | some settings => ", " ++ settings : Text) ++ ")") [] := by
  intro rest
  cases dialect <;> cases uuid <;> rfl

theorem choiceLiterals_cons (given : f.choiceList ≠ []) :
    ∃ rest, choiceLiterals f = '"' :: rest := by
  obtain ⟨value, values, choices⟩ := List.exists_cons_of_ne_nil given
  unfold choiceLiterals
  rw [choices, List.map_cons]
  cases values with
  | nil => exact ⟨_, rfl⟩
  | cons next values =>
    rw [List.map_cons, List.intercalate_cons_cons]
    exact ⟨_, rfl⟩

theorem not_mem_colon_choiceLiterals (choices : ∀ value ∈ f.choiceList, ':' ∉ value) :
    ':' ∉ choiceLiterals f := by
  intro member
  rcases mem_choiceLiterals member with mark | ⟨value, listed, inside⟩
  · simp at mark
  · exact choices value listed inside

/-- The values of an enum declare nothing, if none of them has a colon. -/
theorem declares_choices (given : f.choiceList ≠ []) (noColon : ':' ∉ choiceLiterals f) :
    Declares (Text.code ", ⟦ enum: [" ++ choiceLiterals f ++ Text.code "] ⟧)") [] := by
  obtain ⟨rest, quoted⟩ := choiceLiterals_cons given
  rw [quoted] at noColon ⊢
  have opening : Declares (Text.code ", ⟦ enum") [] := declares_of_not_mem (by simp [Text.code])
  have first : Declares (": " ++ "[" ++ ['"']) [] :=
    declares_setting (by simp [endsWord]) (by simp) rfl (by decide) (by decide)
  have others : Declares (rest ++ Text.code "] ⟧)") [] :=
    declares_of_not_mem (by simp [Text.code, List.not_mem_of_not_mem_cons noColon])
  have whole := (opening.append first).append others
  simpa [Text.code] using whole

/-- The call of a column's builder names the column, and what follows the name declares nothing. -/
theorem declares_columnArguments (choices : ∀ value ∈ f.choiceList, ':' ∉ value)
    (given : f.isEnum = true → f.choiceList ≠ []) (dialect : Dialect) (options : Options) :
    ∃ settings, columnArguments f dialect options ++ ")" =
      "\"" ++ Naming.snake f.name ++ "\"" ++ settings ∧ Declares settings [] := by
  have noColon := not_mem_colon_choiceLiterals choices
  unfold columnArguments
  cases isEnum : f.isEnum with
  | true =>
    cases dialect with
    | sqlite =>
      exact ⟨Text.code ", ⟦ enum: [" ++ choiceLiterals f ++ Text.code "] ⟧)", by simp [Text.code],
        declares_choices (given isEnum) noColon⟩
    | postgresql => exact ⟨")", by simp, declares_of_not_mem (by decide)⟩
    | mysql =>
      exact ⟨", [" ++ choiceLiterals f ++ "])", by simp,
        declares_of_not_mem (by simp [noColon])⟩
  | false =>
    cases f.isReference with
    | true => exact ⟨_, List.append_assoc _ _ _, declares_settings_referenceType _ _⟩
    | false => exact ⟨_, List.append_assoc _ _ _, declares_settings_sized _ _⟩

/-- The line of a field that was read from a token declares the field's column. -/
theorem declares_columnLine {token : Text} (read : Field.ofToken token = .ok f)
    (camel : ∀ c ∈ names.camel, IsNameChar c) (dialect : Dialect) (options : Options) :
    Declares (columnLine names f dialect options) [Naming.snake f.name] := by
  have formed := Field.wellFormed_of_ofToken read
  have letters := isNameChar_of_isIdentifier formed.identifier
  have builder := isNameChar_columnBuilder camel letters dialect options
  have mark {d : Char} (other : ¬ IsNameChar d) (before : d.toNat < 65) :
      d ∉ Naming.snake f.name :=
    fun member => not_mem_of_isNameChar letters other (Naming.mem_snake before member)
  obtain ⟨settings, call, silent⟩ := declares_columnArguments (Field.not_mem_choices read)
    formed.choices dialect options
  have front : Declares ("  " ++ f.name) [] := by
    refine declares_of_not_mem ?_
    simp [not_mem_of_isNameChar letters (d := ':') (by decide)]
  have column : Declares (": " ++ columnBuilder names f dialect options ++ "(\"" ++
      Naming.snake f.name ++ "\"") [Naming.snake f.name] :=
    declares_column (fun d member => endsWord_of_isNameChar (builder d member))
      (not_mem_of_isNameChar builder (by decide)) (mark (by decide) (by decide))
      (mark (by decide) (by decide))
  have tail : Declares (columnTail f) [] :=
    declares_of_not_mem (not_mem_colon_columnTail (Field.not_mem_target read))
  rw [columnLine_eq, call]
  have whole := ((front.append column).append silent).append tail
  simpa using whole

/-! ## Columns of tables -/

/-- The columns of a model's table in the database: the primary key, one for each field, and the
    times of creation and of the last change unless they are left out. -/
def databaseNames (fields : List Field) (options : Options) : List Text :=
  ("id" : Text) :: fields.map (fun f => Naming.snake f.name)
    ++ if options.noTimestamps then [] else ["created_at", "updated_at"].map String.toList

set_option maxRecDepth 4000 in
theorem declares_keyColumn (dialect : Dialect) (uuid : Bool) :
    Declares ("  " ++ keyColumn dialect uuid ++ ",") ["id"] := by
  intro rest
  -- the literals become lists of characters first: evaluating a long literal takes seconds
  cases dialect <;> cases uuid <;> unfold keyColumn <;> repeat rw [String.toList_ofList]
  all_goals rfl

set_option maxRecDepth 4000 in
theorem declares_timestampColumns (dialect : Dialect) :
    Declares ("  " ++ timestampColumns dialect ++ ",")
      (["created_at", "updated_at"].map String.toList) := by
  intro rest
  cases dialect <;> unfold timestampColumns <;> repeat rw [String.toList_ofList]
  all_goals rfl

theorem declares_tableOpening {name : Text} (letters : ∀ c ∈ name, IsNameChar c)
    (dialect : Dialect) : Declares (tableOpening (.ofName name) dialect) [] := by
  have single : ':' ∉ Naming.singularise name :=
    not_mem_of_isNameChar (Naming.isNameChar_singularise letters) (by decide)
  have constant : ':' ∉ (ModelNames.ofName name).camelPlural := fun member =>
    single (Naming.mem_pluralise (by decide) (Naming.mem_camel (by decide) member))
  have table : ':' ∉ (ModelNames.ofName name).table := fun member =>
    single (Naming.mem_snake (by decide) (Naming.mem_pluralise (by decide) member))
  have builder : ':' ∉ dialect.tableBuilder := by cases dialect <;> decide
  refine declares_of_not_mem ?_
  unfold tableOpening tableHeader
  simp [constant, table, builder, Text.code]

/-- The lines of a table declare the model's columns. -/
theorem declares_tableLines (camel : ∀ c ∈ names.camel, IsNameChar c)
    (read : ∀ f ∈ fields, ∃ token, Field.ofToken token = .ok f) (dialect : Dialect)
    (options : Options) :
    Declares (List.intercalate ['\n'] (tableLines names fields dialect options))
      (databaseNames fields options) := by
  have stamps : List.Forall₂ Declares
      (if options.noTimestamps then [] else ["  " ++ timestampColumns dialect ++ ","])
      (if options.noTimestamps then [] else [["created_at", "updated_at"].map String.toList]) := by
    cases options.noTimestamps
    · exact .cons (declares_timestampColumns dialect) .nil
    · exact .nil
  have each : List.Forall₂ Declares (fields.map fun f => columnLine names f dialect options)
      (fields.map fun f => [Naming.snake f.name]) := by
    rw [List.forall₂_map_left_iff, List.forall₂_map_right_iff, List.forall₂_same]
    intro f member
    obtain ⟨token, parsed⟩ := read f member
    exact declares_columnLine parsed camel dialect options
  have lines := declares_intercalate (List.rel_append (List.rel_append
    (.cons (declares_keyColumn dialect options.uuid) .nil) each) stamps)
  have flat : (fields.map fun f => [Naming.snake f.name]).flatten =
      fields.map fun f => Naming.snake f.name := by
    rw [← List.flatMap_def, ← List.flatMap_pure_eq_map]
    rfl
  unfold databaseNames
  rw [← flat]
  cases stamped : options.noTimestamps <;> simpa [tableLines, stamped] using lines

/-- The columns that the text of a table declares have the names of the model's columns. -/
theorem declaredColumns_tableExport {name : Text} (letters : ∀ c ∈ name, IsNameChar c)
    (read : ∀ f ∈ fields, ∃ token, Field.ofToken token = .ok f) (dialect : Dialect)
    (options : Options) :
    declaredColumns (tableExport (.ofName name) fields dialect options) =
      databaseNames fields options := by
  have camel : ∀ c ∈ (ModelNames.ofName name).camel, IsNameChar c :=
    Naming.isNameChar_camel (Naming.isNameChar_singularise letters)
  have feed : Declares ['\n'] [] := declares_of_not_mem (by decide)
  have closing : Declares ('\n' :: tableEnd) [] := declares_of_not_mem (by decide)
  have columns := declares_tableLines camel read dialect options
  -- nothing follows the table's text, so what it declares is all that is read
  have whole := (declares_tableOpening letters dialect).append
    (feed.append (columns.append closing)) []
  rw [tableExport_eq_lines]
  simpa [declaredColumns] using whole

/-! ## Columns that are told apart -/

/-- The names that a model's columns have in the code. -/
def propertyNames (fields : List Field) (options : Options) : List Text :=
  primaryKey :: fields.map Field.name ++ if options.noTimestamps then [] else timestampNames

theorem databaseNames_eq_map (fields : List Field) (options : Options) :
    databaseNames fields options = (propertyNames fields options).map Naming.snake := by
  have key : Naming.snake primaryKey = "id" := by decide
  have stamps : timestampNames.map Naming.snake = ["created_at", "updated_at"].map String.toList := by
    decide
  have front : (primaryKey :: fields.map Field.name).map Naming.snake =
      ("id" : Text) :: fields.map (fun f => Naming.snake f.name) := by
    rw [List.map_cons, key, List.map_map]
    rfl
  unfold databaseNames propertyNames
  rw [List.map_append, front, apply_ite (List.map Naming.snake), stamps]
  rfl

variable {tokens : List Text}

theorem propertyNames_nodup (read : Field.ofTokens tokens options.noTimestamps = .ok fields) :
    (propertyNames fields options).Nodup := by
  obtain ⟨tokensOf, -, distinct⟩ := Field.ofTokensAfter_spec read
  have key : primaryKey ∉ fields.map Field.name := by
    intro member
    obtain ⟨f, given, same⟩ := List.mem_map.1 member
    obtain ⟨token, -, readToken⟩ := tokensOf f given
    exact Field.ne_primaryKey_of_ofToken readToken same
  have first : (primaryKey :: fields.map Field.name).Nodup := List.nodup_cons.2 ⟨key, distinct⟩
  unfold propertyNames
  cases stamped : options.noTimestamps with
  | true => simpa using first
  | false =>
    have others := Field.not_mem_timestampNames read stamped
    refine first.append (by decide) fun name member stamp => ?_
    rcases List.mem_cons.1 member with rfl | member
    · exact absurd stamp (by decide)
    · obtain ⟨f, given, rfl⟩ := List.mem_map.1 member
      exact others f given stamp

/-- The generated columns have names that a field could have but for the other rules. -/
theorem generated_checked : ∀ name ∈ primaryKey :: timestampNames,
    isIdentifier Char.isLower name = true ∧ Text.lower name ∉ sqlWords := by
  decide +kernel

theorem checked_of_mem_propertyNames
    (read : Field.ofTokens tokens options.noTimestamps = .ok fields) {name : Text}
    (member : name ∈ propertyNames fields options) :
    isIdentifier Char.isLower name = true ∧ Text.lower name ∉ sqlWords := by
  have cases : name ∈ primaryKey :: timestampNames ∨ ∃ f ∈ fields, f.name = name := by
    unfold propertyNames at member
    rcases List.mem_append.1 member with first | stamp
    · rcases List.mem_cons.1 first with rfl | given
      · exact .inl (by simp)
      · exact .inr (List.mem_map.1 given)
    · split at stamp
      · cases stamp
      · exact .inl (List.mem_cons_of_mem _ stamp)
  rcases cases with generated | ⟨f, given, rfl⟩
  · exact generated_checked name generated
  · obtain ⟨token, -, readToken⟩ := (Field.ofTokensAfter_spec read).1 f given
    obtain ⟨identifier, word, -⟩ := Token.checkName_eq_ok_iff.1 (Field.checkName_of_ofToken readToken)
    exact ⟨identifier, word⟩

/-- The words of SQL are single words in small letters. -/
theorem sqlWords_small : (sqlWords.all fun word =>
    Text.lower word = word && word.all fun c => !Naming.isSeparator c) = true := by
  decide +kernel

/-- A name whose spelling with low lines is a word of SQL is that word. -/
theorem lower_mem_sqlWords {name : Text} (identifier : isIdentifier Char.isLower name = true)
    (word : Naming.snake name ∈ sqlWords) : Text.lower name ∈ sqlWords := by
  have small := List.all_eq_true.1 sqlWords_small _ word
  simp only [Bool.and_eq_true, decide_eq_true_eq, List.all_eq_true, Bool.not_eq_true'] at small
  have same : Naming.snake name = name := Naming.snake_eq_of_joined identifier small.2
  rw [same] at small word
  rwa [small.1]

/-- Of the fields that are read for one model and the generated columns, no two have the same name
    in the database, and none has a word of SQL for its name. These are the names of the columns that
    the model's table declares. -/
theorem databaseNames_apart (tokens : List Text) (options : Options)
    (read : Field.ofTokens tokens options.noTimestamps = .ok fields) :
    (databaseNames fields options).Nodup ∧
      (∀ column ∈ databaseNames fields options, column ∉ sqlWords) ∧
      ∀ name, checkModelName name = .ok () → ∀ dialect,
        declaredColumns (tableExport (.ofName name) fields dialect options) =
          databaseNames fields options := by
  refine ⟨?_, ?_, fun name valid dialect => ?_⟩
  · rw [databaseNames_eq_map]
    exact (propertyNames_nodup read).map_on fun a first b second same => Naming.snake_injective
      (checked_of_mem_propertyNames read first).1 (checked_of_mem_propertyNames read second).1 same
  · rw [databaseNames_eq_map]
    intro column member word
    obtain ⟨name, property, rfl⟩ := List.mem_map.1 member
    obtain ⟨identifier, free⟩ := checked_of_mem_propertyNames read property
    exact free (lower_mem_sqlWords identifier word)
  · refine declaredColumns_tableExport (isNameChar_of_checkModelName valid) (fun f given => ?_)
      dialect options
    obtain ⟨token, -, readToken⟩ := (Field.ofTokensAfter_spec read).1 f given
    exact ⟨token, readToken⟩

/-- The columns of posts with an author. -/
theorem authored_apart : ∃ fields,
    Field.ofTokens ["title", "authorId:references:user"] false = .ok fields ∧
      (databaseNames fields {}).Nodup ∧ (∀ column ∈ databaseNames fields {}, column ∉ sqlWords) ∧
      ∀ dialect, declaredColumns (tableExport (.ofName "post") fields dialect {}) =
        ["id", "title", "author_id", "created_at", "updated_at"].map String.toList := by
  let fields : List Field := [{ name := "title" },
    { name := "authorId", kind := .references, isReference := true, target := some "user" }]
  have read : Field.ofTokens ["title", "authorId:references:user"] false = .ok fields := by
    decide +kernel
  obtain ⟨distinct, words, declared⟩ := databaseNames_apart _ {} read
  have names : databaseNames fields {} =
      ["id", "title", "author_id", "created_at", "updated_at"].map String.toList := by
    decide +kernel
  exact ⟨fields, read, distinct, words, fun dialect =>
    (declared "post" (by decide) dialect).trans names⟩

end Schema

end Groundwork
