import Groundwork.Proofs.Naming.Singular
import Groundwork.Schema.Definition

/-!
# References and the tables they point at

A field that refers to a model points at the plural of the word that it was given, and the model
exports the plural of its singular. The two are one name exactly if the word is its own singular
(`referencedTable_eq_iff`).
-/

namespace Groundwork

/-! ## Tokens of references -/

/-- The required field that refers to a model. -/
def Field.reference (name target : Text) : Field where
  name := name
  kind := .references
  isReference := true
  target := some target

namespace Token

/-- A token's parts that name a target to refer to. -/
def references (name target : Text) : Token := ⟨name, "references", [target]⟩

variable {name target : Text}

theorem ofText_references (named : ':' ∉ name) (aimed : ':' ∉ target) :
    ofText (name ++ ":references:" ++ target) = references name target := by
  have cut : Text.split ':' (name ++ ":references:" ++ target) = [name, "references", target] := by
    rw [show name ++ ":references:" ++ target =
      name ++ ':' :: (("references" : Text) ++ ':' :: target) by simp, Text.split_append,
      Text.split_append, Text.split_of_not_mem named, Text.split_of_not_mem aimed]
    rfl
  unfold ofText
  rw [cut]
  rfl

theorem typeWord_references (name target : Text) :
    (references name target).typeWord = "references" := rfl

theorem name_references (unmarked : '?' ∉ name) : (references name target).name = name :=
  Text.dropEnding_of_getLast?_ne fun last => unmarked (List.mem_of_getLast? last)

theorem argument_references (name target : Text) : (references name target).argument = target := rfl

theorem checkType_references (given : target.isEmpty = false) (other : target ≠ "unique") :
    (references name target).checkType = .ok () := by
  have known : (!typeWords.contains ("references" : Text)) = false := by decide
  have noEnum : decide (("references" : Text) = "enum") = false := by decide
  have noUnique : decide (target = ("unique" : Text)) = false := decide_eq_false other
  unfold checkType
  rw [typeWord_references, known, noEnum, argument_references, given, noUnique]
  rfl

theorem field_references (given : target.isEmpty = false) (unmarked : '?' ∉ name) :
    (references name target).field = .ok (.reference name target) := by
  have required : Text.endsWith ['?'] name = false := by
    rw [Bool.eq_false_iff, Ne, Text.endsWith_iff]
    exact fun ends => unmarked (ends.subset (by simp))
  have noNull : (references name target).isNullable = false := by
    unfold isNullable
    rw [show Text.endsWith ['?'] (references name target).namePart = false from required]
    rfl
  have noUnique : (("references" : Text) = "unique") = False := by decide
  have kind : FieldKind.ofWord? ("references" : Text) = some .references := by decide
  unfold field
  rw [typeWord_references, name_references unmarked, noNull, argument_references, kind]
  simp only [noUnique, if_false]
  change Field.complete (.reference name target) = _
  unfold Field.complete Field.reference
  simp [given]

end Token

/-- A token of a name and an accepted target that is not the word `unique` is read. -/
theorem Field.ofToken_references {name target : Text}
    (named : Token.checkName (name ++ ":references:" ++ target) name = .ok ())
    (accepted : checkModelName target = .ok ()) (other : target ≠ "unique") :
    ofToken (name ++ ":references:" ++ target) = .ok (.reference name target) := by
  have letters := isNameChar_of_isIdentifier (Token.checkName_eq_ok_iff.1 named).1
  have others := isNameChar_of_checkModelName accepted
  have parts := Token.ofText_references (not_mem_of_isNameChar letters (by decide))
    (not_mem_of_isNameChar others (by decide))
  have nonempty : target.isEmpty = false := by
    cases target with
    | nil => cases accepted
    | cons c s => rfl
  have unmarked : '?' ∉ name := not_mem_of_isNameChar letters (by decide)
  have checked : Token.check (name ++ ":references:" ++ target) = .ok () := by
    unfold Token.check
    rw [parts]
    refine bind_eq_ok_iff.2 ⟨(), ?_, Token.checkType_references nonempty other⟩
    rwa [Token.name_references unmarked]
  refine bind_eq_ok_iff.2 ⟨(), checked, ?_⟩
  rw [parts]
  exact Token.field_references nonempty unmarked

namespace Schema

open Naming

/-! ## The tables that references name -/

theorem columnLine_reference (names : ModelNames) (name target : Text) (dialect : Dialect)
    (options : Options) :
    columnLine names (.reference name target) dialect options =
      "  " ++ name ++ ": " ++ (referenceType dialect options.uuid).call (snake name) ++
        ".references(() => " ++ referencedTable (.reference name target) ++ ".id).notNull()," := by
  unfold columnLine columnCall modifiers Field.reference
  simp

theorem tableExport_exports (names : ModelNames) (fields : List Field) (dialect : Dialect)
    (options : Options) :
    ∃ table, tableExport names fields dialect options =
      "export const " ++ names.camelPlural ++ " = " ++ table := by
  unfold tableExport
  simp only [List.append_assoc]
  exact ⟨_, rfl⟩

/-- A reference names what the target's model exports exactly if the target is its own singular. -/
theorem referencedTable_eq_iff {name target : Text} (accepted : checkModelName target = .ok ()) :
    referencedTable (.reference name target) = (ModelNames.ofName target).camelPlural ↔
      IsSingular target := by
  have letters := isNameChar_of_checkModelName accepted
  change camel (pluralise target) = camel (pluralise (singularise target)) ↔ _
  refine ⟨fun same => ?_, fun single => by rw [singularise_of_isSingular single]⟩
  by_contra plural
  -- camel case keeps lengths, and the plural of a plural is longer than the plural
  have shorter := length_pluralise_singularise_lt (mt singularise_eq_self_iff.1 plural)
  have lengths := congrArg List.length same
  rw [length_camel (isNameChar_pluralise letters),
    length_camel (isNameChar_pluralise (isNameChar_singularise letters))] at lengths
  omega

/-- A token of a name and a target is read as a column that refers to one exported name, and the
    target's model exports one name. They are the same exactly if the target has no plural ending. -/
theorem reference_exported_iff (name target : Text)
    (named : Token.checkName (name ++ ":references:" ++ target) name = .ok ())
    (accepted : checkModelName target = .ok ()) (other : target ≠ "unique") :
    ∃ f, Field.ofToken (name ++ ":references:" ++ target) = .ok f ∧
      (∀ names dialect options, columnLine names f dialect options =
        "  " ++ name ++ ": " ++ (referenceType dialect options.uuid).call (snake name) ++
          ".references(() => " ++ referencedTable f ++ ".id).notNull(),") ∧
      (∀ fields dialect options, ∃ table,
        tableExport (.ofName target) fields dialect options =
          "export const " ++ (ModelNames.ofName target).camelPlural ++ " = " ++ table) ∧
      (referencedTable f = (ModelNames.ofName target).camelPlural ↔ IsSingular target) :=
  ⟨.reference name target, Field.ofToken_references named accepted other,
    fun names dialect options => columnLine_reference names name target dialect options,
    fun fields dialect options => tableExport_exports _ fields dialect options,
    referencedTable_eq_iff accepted⟩

/-- An author refers to the users, as they are exported. -/
theorem author_exported : ∃ f, Field.ofToken "author:references:user" = .ok f ∧
    referencedTable f = (ModelNames.ofName "user").camelPlural := by
  obtain ⟨f, read, -, -, same⟩ :=
    reference_exported_iff "author" "user" (by decide) (by decide) (by decide)
  exact ⟨f, read, same.2 (.inl (by decide))⟩

/-- A reference to posts names a table that is exported under another name. -/
theorem posts_exported_apart : ∃ f, checkModelName "posts" = .ok () ∧
    Field.ofToken "post:references:posts" = .ok f ∧
    columnLine (.ofName "comment") f .sqlite {} =
      "  post: integer(\"post\").references(() => postses.id).notNull()," ∧
    (ModelNames.ofName "posts").camelPlural = "posts" ∧
    referencedTable f ≠ (ModelNames.ofName "posts").camelPlural :=
  ⟨.reference "post" "posts", by decide +kernel⟩

end Schema

end Groundwork
