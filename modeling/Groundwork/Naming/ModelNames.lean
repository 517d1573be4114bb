import Groundwork.Naming.CaseStyle
import Groundwork.Naming.Inflection

/-!
# The names of a model

Every spelling of a model's name that generated source, routes and tables use. All of them come
from the singular, so that the singular and the plural of a noun name the same model.
-/

namespace Groundwork

/-- The spellings of one model's name. -/
structure ModelNames where
  /-- The name as it was given, singular or plural. -/
  name : Text
  singular : Text
  plural : Text
  pascal : Text
  pascalPlural : Text
  camel : Text
  camelPlural : Text
  snake : Text
  snakePlural : Text
  kebab : Text
  kebabPlural : Text
  /-- The name of the database table. -/
  table : Text
  deriving DecidableEq, Repr

namespace ModelNames

open Naming

/-- The spellings derived from a name in singular or plural. -/
def ofName (name : Text) : ModelNames :=
  let singular := singularise name
  let plural := pluralise singular
  { name := name
    singular := singular
    plural := plural
    pascal := Naming.pascal singular
    pascalPlural := Naming.pascal plural
    camel := Naming.camel singular
    camelPlural := Naming.camel plural
    snake := Naming.snake singular
    snakePlural := Naming.snake plural
    kebab := Naming.kebab singular
    kebabPlural := Naming.kebab plural
    table := pluralise (Naming.snake singular) }

end ModelNames

end Groundwork
