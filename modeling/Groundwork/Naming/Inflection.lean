import Groundwork.Text.Basic

/-!
# Singular and plural

The regular endings of English nouns. Irregular nouns take the regular ending (`person`,
`persons`).
-/

namespace Groundwork.Naming

/-- A vowel letter in lower case. -/
def isVowel (c : Char) : Bool := ['a', 'e', 'i', 'o', 'u'].contains c

/-- The word ends in a `y` that takes `ies` in the plural: one that follows no vowel. -/
def endsInChangingY (s : Text) : Bool :=
  match s.reverse with
  | 'y' :: c :: _ => !isVowel c
  | ['y'] => true
  | _ => false

/-- The plural of a noun. -/
def pluralise (s : Text) : Text :=
  if endsInChangingY s then s.dropLast ++ "ies"
  else if ["s", "x", "ch", "sh"].any fun ending => Text.endsWith ending s then s ++ "es"
  else s ++ "s"

/-- The singular of a noun, which may be singular already. -/
def singularise (s : Text) : Text :=
  match Text.before? "ies" s with
  | some stem => stem ++ "y"
  | none =>
    if ["xes", "ches", "shes", "sses"].any fun ending => Text.endsWith ending s then
      s.take (s.length - 2)
    else if Text.endsWith "s" s && !Text.endsWith "ss" s then s.dropLast
    else s

end Groundwork.Naming
