import Groundwork.Console.Colour

/-!
# Styles

A style says how text looks: its traits, its colours and where it links to. It is written as
words in any order, with shorthands for some traits. `styleName` gives one name to all styles
that look alike, so that `[b red]` is closed by `[/red bold]`.
-/

namespace Groundwork.Console

/-- A way to show text, which a style sets or excludes. -/
inductive Trait where
  | bold
  | dim
  | italic
  | underline
  | blink
  | blink2
  | reverse
  | conceal
  | strike
  | underline2
  | frame
  | encircle
  | overline
  deriving DecidableEq, Repr

namespace Trait

/-- Every trait, in the order in which a style's name lists them. -/
def all : List Trait :=
  [bold, dim, italic, underline, blink, blink2, reverse, conceal, strike, underline2, frame,
   encircle, overline]

/-- The word of a trait. -/
def word : Trait → Text
  | bold => "bold"
  | dim => "dim"
  | italic => "italic"
  | underline => "underline"
  | blink => "blink"
  | blink2 => "blink2"
  | reverse => "reverse"
  | conceal => "conceal"
  | strike => "strike"
  | underline2 => "underline2"
  | frame => "frame"
  | encircle => "encircle"
  | overline => "overline"

/-- The shorthand of a trait. -/
def shorthand? : Trait → Option Text
  | bold => some "b"
  | dim => some "d"
  | italic => some "i"
  | underline => some "u"
  | reverse => some "r"
  | conceal => some "c"
  | strike => some "s"
  | underline2 => some "uu"
  | overline => some "o"
  | blink | blink2 | frame | encircle => none

/-- The trait of a word or shorthand. -/
def ofWord? (word : Text) : Option Trait :=
  all.find? fun trait => trait.word = word || trait.shorthand? = some word

end Trait

/-- How text looks. -/
structure Style where
  /-- Traits that are on or off; the first entry of a trait counts. -/
  traits : List (Trait × Bool) := []
  colour : Option Text := none
  background : Option Text := none
  link : Option Text := none
  deriving DecidableEq, Repr

namespace Style

/-- What the next word of a style is for. -/
inductive Role where
  /-- It sets a trait or the colour, or says what the word after it is for. -/
  | any
  /-- It is the colour behind the text. -/
  | background
  /-- It is a trait that is off. -/
  | excluded
  /-- It is where the text links to. -/
  | link
  deriving DecidableEq, Repr

/-- The style that words add to a style; none if a word means nothing or the last word lacks
    another one. Capitals do not matter, except in links and in traits that are off. -/
def ofWords? (style : Style) (role : Role) : List Text → Except Failure (Option Style)
  | [] => .ok (if role = .any then some style else none)
  | word :: words =>
    let plain := Text.lower word
    match role with
    | .background => do
      if ← isColour plain then ofWords? { style with background := some plain } .any words
      else return none
    | .excluded =>
      match Trait.ofWord? word with
      | some trait =>
        ofWords? { style with traits := (trait, false) :: style.traits } .any words
      | none => .ok none
    | .link => ofWords? { style with link := some word } .any words
    | .any =>
      if plain = "on" then ofWords? style .background words
      else if plain = "not" then ofWords? style .excluded words
      else if plain = "link" then ofWords? style .link words
      else match Trait.ofWord? plain with
        | some trait =>
          ofWords? { style with traits := (trait, true) :: style.traits } .any words
        | none => do
          if ← isColour plain then ofWords? { style with colour := some plain } .any words
          else return none

/-- The words of a style in their fixed order: traits, colour, background, link. -/
def words (style : Style) : List Text :=
  let traits : List (List Text) := Trait.all.filterMap fun trait =>
    (style.traits.lookup trait).map fun on => if on then [trait.word] else ["not", trait.word]
  let background : List Text := style.background.toList.flatMap fun colour => ["on", colour]
  let link : List Text := style.link.toList.flatMap fun target => ["link", target]
  traits.flatten ++ style.colour.toList ++ background ++ link

end Style

/-- The name of a style that says nothing. -/
def plainStyleName : Text := "none"

/-- The name that styles share if they look alike. What is no style has its text in small letters
    as its name. -/
def styleName (s : Text) : Except Failure Text := do
  let words := Text.words s
  if words = [plainStyleName] then return plainStyleName
  match ← Style.ofWords? {} .any words with
  | none => return Text.lower (Text.trim s)
  | some style =>
    return if style.words.isEmpty then plainStyleName else List.intercalate " " style.words

end Groundwork.Console
