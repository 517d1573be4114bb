import Groundwork.Text.Word
import Groundwork.Text.Case

/-!
# Case styles of identifiers

One name is written as `BlogPost`, `blogPost`, `blog_post` or `blog-post`, depending on where it
stands. Each style is computed from any of the others.
-/

namespace Groundwork.Naming

/-- A character that joins two words. -/
def isSeparator (c : Char) : Bool := c = '-' || c = '_'

/-- Each separator before a word character goes, and that character is raised. -/
def raiseWords : Text → Text
  | [] => []
  | [c] => [c]
  | c :: d :: s =>
    if isSeparator c && Text.isWord d then Text.upperChar d ++ raiseWords s
    else c :: raiseWords (d :: s)

/-- The style `BlogPost`. -/
def pascal (s : Text) : Text := Text.capitalise (raiseWords s)

/-- The style `blogPost`. -/
def camel (s : Text) : Text := Text.uncapitalise (pascal s)

/-- A low line before each capital of ASCII. -/
def markCapitals (s : Text) : Text :=
  s.flatMap fun c => if c.isUpper then ['_', c] else [c]

/-- The style `blog_post`. -/
def snake (s : Text) : Text := Text.dropOne '_' (Text.lower (markCapitals s))

/-- The style `blog-post`. -/
def kebab (s : Text) : Text := (snake s).map fun c => if c = '_' then '-' else c

end Groundwork.Naming
