import Groundwork.Console.Emoji
import Groundwork.Console.Layout
import Groundwork.Console.Style
import Groundwork.Literal.Basic
import Groundwork.Text.Word

/-!
# Console markup

Text for the console may hold tags in brackets that set a style, such as `[bold]` and `[/bold]`, or
attach a handler, such as `[@click=open(1)]`. The console shows no styles here, so tags vanish. A
backslash in front of a tag makes it ordinary text, which `escape` uses for text that is not markup.
Codes such as `:cat:` in the text between tags stand for emojis.
-/

namespace Groundwork.Console

/-- The inside of a tag at the front of a text, given without its opening bracket: it begins with a
    small letter, `#`, `/` or `@`, and reaches to the next closing bracket. -/
def tagInside? : Text → Option Text
  | [] => none
  | c :: s =>
    if c.isLower || c = '#' || c = '/' || c = '@' then
      match s.span fun c => c ≠ ']' && c ≠ '[' with
      | (inside, ']' :: _) => some (c :: inside)
      | _ => none
    else none

/-- Backslashes. -/
def backslashes (n : Nat) : Text := List.replicate n '\\'

/-- The text with its tags escaped, where `pending` backslashes precede it. -/
def escapeTags (pending : Nat) : Text → Text
  | [] => backslashes pending
  | c :: s =>
    if c = '\\' then escapeTags (pending + 1) s
    else if c = '[' && (tagInside? s).isSome then
      backslashes (2 * pending + 1) ++ c :: escapeTags 0 s
    else backslashes pending ++ c :: escapeTags 0 s

/-- Markup that shows as the given text. -/
def escape (s : Text) : Text :=
  let escaped := escapeTags 0 s
  if Text.endsWith "\\" escaped && !Text.endsWith "\\\\" escaped then escaped ++ "\\" else escaped

/-- A part of markup. -/
inductive Piece where
  | plain (text : Text)
  /-- A tag, given by its inside and its position in the markup. -/
  | tag (position : Nat) (inside : Text)
  deriving DecidableEq, Repr

/-- A text as a part of markup, if it is not empty. -/
def plainPiece (text : Text) : List Piece := if text.isEmpty then [] else [.plain text]

/-- The parts of markup from a position on. Before it stand `before`, the ordinary text since the
    last part in reverse, and then `pending` backslashes; `skipped` characters belong to a tag that
    was read already. -/
def piecesFrom (position : Nat) (before : Text) (pending skipped : Nat) : Text → List Piece
  | [] => plainPiece (before.reverse ++ backslashes pending)
  | c :: s =>
    if 0 < skipped then piecesFrom (position + 1) [] 0 (skipped - 1) s
    else if c = '\\' then piecesFrom (position + 1) before (pending + 1) 0 s
    else if c ≠ '[' then piecesFrom (position + 1) (c :: (backslashes pending ++ before)) 0 0 s
    else match tagInside? s with
      | none =>
        piecesFrom (position + 1) ('[' :: (backslashes (pending - 1) ++ before)) 0 0 s
      | some inside =>
        let piece : Piece :=
          if pending % 2 = 1 then .plain ('[' :: inside ++ "]") else .tag position inside
        plainPiece before.reverse ++ plainPiece (backslashes (pending / 2))
          ++ piece :: piecesFrom (position + 1) [] 0 (inside.length + 1) s

/-- The parts of markup: its tags, and the ordinary text between them, where a backslash before a
    bracket is left out. -/
def pieces (markup : Text) : List Piece := piecesFrom 0 [] 0 0 markup

/-- A tag that is open. -/
structure Tag where
  /-- The name of its style, which the tag that closes it shares. -/
  name : Text
  /-- What follows an equals sign in the tag. -/
  parameter : Text
  deriving DecidableEq, Repr

/-- The tag with this inside: what precedes its first equals sign names a style. -/
def Tag.ofInside (inside : Text) : Except Failure Tag := do
  let (style, rest) := inside.span (· ≠ '=')
  return ⟨← styleName style, rest.drop 1⟩

/-- The parameter of a handler names an action. The arguments that follow the name, in brackets at
    the end, are literals; another parameter is a literal as a whole. -/
def handlerArguments? (parameter : Text) : Option Text :=
  match parameter.dropWhile fun c => Text.isWord c || c = '.' with
  | [] => none
  | '(' :: arguments =>
    if Text.endsWith ")" arguments && !arguments.contains '\n' then some ('(' :: arguments)
    else some parameter
  | _ => some parameter

/-- Close a tag. A tag whose name begins with an at sign is a handler, and its arguments are
    read. -/
def Tag.close (tag : Tag) : Except Failure Unit :=
  if tag.name.head? ≠ some '@' then .ok ()
  else match handlerArguments? (Text.trim tag.parameter) with
    | none => .ok ()
    | some arguments =>
      match Literal.fault? arguments with
      | none => .ok ()
      | some fault => .error (.handlerMalformed arguments tag.parameter fault)

/-- The open tags after a closing tag, given by what follows its slash: one without a name closes
    the last tag, another one the last tag of its name. -/
def closeTag (openTags : List Tag) (inside : Text) (position : Nat) :
    Except Failure (List Tag) := do
  let style := Text.trim (inside.takeWhile (· ≠ '='))
  if style.isEmpty then
    match openTags with
    | [] => throw (.unopenedTag [] position)
    | tag :: openTags => tag.close; return openTags
  else
    let name ← styleName style
    match openTags.find? (·.name = name) with
    | none => throw (.unopenedTag inside position)
    | some tag => tag.close; return openTags.eraseP (·.name = name)

/-- What the parts of markup show; the last of the open tags comes first. -/
def showPieces (openTags : List Tag) : List Piece → Except Failure Text
  | [] => .ok []
  | .plain text :: pieces => do return withEmojis text ++ (← showPieces openTags pieces)
  | .tag position inside :: pieces => do
    let openTags ← match inside with
      | '/' :: inside => closeTag openTags inside position
      | _ => do pure ((← Tag.ofInside inside) :: openTags)
    showPieces openTags pieces

/-- Control characters that the console drops. -/
def isDropped (c : Char) : Bool := c = '\x07' || c = '\x08' || (0x0b ≤ c.toNat && c.toNat ≤ 0x0d)

/-- What markup shows, as one text. -/
def shown (markup : Text) : Except Failure Text := do
  return (← showPieces [] (pieces markup)).filter fun c => !isDropped c

/-- Columns of the console. -/
def consoleWidth : Nat := 200

/-- What the console prints for markup, up to the end of its last line. -/
def print (markup : Text) : Except Failure Text := do
  return Text.lines (layOut .fold consoleWidth (← shown markup))

end Groundwork.Console
