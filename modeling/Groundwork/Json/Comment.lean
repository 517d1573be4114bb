import Groundwork.Text.Blank

/-!
# JSON with comments

Configuration files allow comments, from `//` to the end of the line or between `/*` and `*/`, and
a comma after the last item. `strip` takes both out and leaves plain JSON. Texts between quotes are
kept; a quotation mark without a partner is an ordinary character.
-/

namespace Groundwork.Json

/-- A quotation mark follows that is not escaped. -/
def closesText : Text → Bool
  | [] => false
  | ['\\'] => false
  | '\\' :: _ :: s => closesText s
  | c :: s => c = '"' || closesText s

/-- The end of a block comment follows. -/
def closesComment : Text → Bool
  | [] => false
  | '*' :: '/' :: _ => true
  | _ :: s => closesComment s

/-- Where a character stands. -/
inductive Place where
  | outside
  | inText
  /-- After a backslash within a text. -/
  | escaped
  | lineComment
  | blockComment
  deriving DecidableEq, Repr

/-- The text without comments, where its first character stands at the given place. -/
def stripCommentsFrom : Place → Text → Text
  | _, [] => []
  | .outside, '"' :: s =>
    '"' :: (if closesText s then stripCommentsFrom .inText s else stripCommentsFrom .outside s)
  | .outside, '/' :: '/' :: s => stripCommentsFrom .lineComment s
  | .outside, '/' :: '*' :: s =>
    if closesComment s then stripCommentsFrom .blockComment s
    else '/' :: '*' :: stripCommentsFrom .outside s
  | .outside, c :: s => c :: stripCommentsFrom .outside s
  | .inText, '"' :: s => '"' :: stripCommentsFrom .outside s
  | .inText, '\\' :: s => '\\' :: stripCommentsFrom .escaped s
  | .inText, c :: s => c :: stripCommentsFrom .inText s
  | .escaped, c :: s => c :: stripCommentsFrom .inText s
  | .lineComment, '\n' :: s => '\n' :: stripCommentsFrom .outside s
  | .lineComment, _ :: s => stripCommentsFrom .lineComment s
  | .blockComment, '*' :: '/' :: s => stripCommentsFrom .outside s
  | .blockComment, _ :: s => stripCommentsFrom .blockComment s

/-- The text without comments. -/
def stripComments (s : Text) : Text := stripCommentsFrom .outside s

/-- Blanks and a closing bracket or brace follow. -/
def closesNext (s : Text) : Bool :=
  match Text.dropBlanks s with
  | [] => false
  | c :: _ => c = ']' || c = '\x7d'

/-- The text without commas before a closing bracket or brace, wherever they stand. -/
def stripLastCommas : Text → Text
  | [] => []
  | c :: s => if c = ',' && closesNext s then stripLastCommas s else c :: stripLastCommas s

/-- The text without comments and without commas after the last item. -/
def strip (s : Text) : Text := stripLastCommas (stripComments s)

end Groundwork.Json
