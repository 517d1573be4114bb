import Groundwork.Text.Basic

/-!
# Arguments of the command line

The words after a command's name are switches and positional arguments in any order. Switches of
one letter may be joined behind one hyphen, a switch that takes a value takes the rest of its word
or the next word, and after `--` every word is positional.
-/

namespace Groundwork.CommandLine

/-- A switch of a command. -/
inductive Switch where
  | force
  | dryRun
  | uuid
  | timestamps
  | noTimestamps
  | init
  | project
  | help
  deriving DecidableEq, Repr

namespace Switch

/-- The switch takes a value. -/
def takesValue (s : Switch) : Bool := s = project

/-- The long name of a switch. -/
def longName : Switch → Text
  | force => "force"
  | dryRun => "dry-run"
  | uuid => "uuid"
  | timestamps => "timestamps"
  | noTimestamps => "no-timestamps"
  | init => "init"
  | project => "project"
  | help => "help"

/-- The letter of a switch, if it has one. -/
def letter? : Switch → Option Char
  | force => some 'f'
  | dryRun => some 'n'
  | uuid => some 'u'
  | project => some 'p'
  | timestamps | noTimestamps | init | help => none

end Switch

/-- The words of a command line, sorted out. -/
structure Arguments where
  /-- The switches in order, with their values; the value of a switch that takes none is empty. -/
  switches : List (Switch × Text) := []
  positional : List Text := []
  deriving DecidableEq, Repr

namespace Arguments

/-- The arguments with switches in front. -/
def withSwitches (found : List (Switch × Text)) (a : Arguments) : Arguments :=
  { a with switches := found ++ a.switches }

/-- The switch is given. -/
def has (a : Arguments) (s : Switch) : Bool := a.switches.any fun (given, _) => given = s

/-- The value of a switch; the last one counts. -/
def value? (a : Arguments) (s : Switch) : Option Text :=
  (a.switches.findRev? fun (given, _) => given = s).map Prod.snd

end Arguments

/-- What one word of a command line is. -/
inductive Word where
  | positional
  | endOfSwitches
  | switches (found : List (Switch × Text))
  /-- Switches, the last of which takes the next word as its value. -/
  | wantsValue (found : List (Switch × Text)) (last : Switch)
  deriving DecidableEq, Repr

/-- The switches that letters behind one hyphen stand for. -/
def lettersWord? (known : List Switch) : Text → Option Word
  | [] => some (.switches [])
  | c :: rest => do
    let s ← known.find? fun s => s.letter? = some c
    if s.takesValue then
      return if rest.isEmpty then .wantsValue [] s else .switches [(s, rest)]
    else
      match ← lettersWord? known rest with
      | .switches found => return .switches ((s, []) :: found)
      | .wantsValue found last => return .wantsValue ((s, []) :: found) last
      | word => return word

/-- The switch that a long name stands for, perhaps with a value after an equals sign. -/
def longWord? (known : List Switch) (word : Text) : Option Word :=
  match word.span (· ≠ '=') with
  | (name, rest) => do
    let s ← known.find? fun s => s.longName = name
    match rest with
    | [] => return if s.takesValue then .wantsValue [] s else .switches [(s, [])]
    | _ :: value => if s.takesValue then return .switches [(s, value)] else none

/-- What a word is; nothing if it is an unknown switch, or gives a value to one that takes none. -/
def word? (known : List Switch) : Text → Option Word
  | '-' :: '-' :: [] => some .endOfSwitches
  | '-' :: '-' :: name => longWord? known name
  | '-' :: c :: letters => lettersWord? known (c :: letters)
  | _ => some .positional

/-- The words of a command line sorted out; nothing if a switch is misused. -/
def arguments? (known : List Switch) : List Text → Option Arguments
  | [] => some {}
  | word :: words => do
    match ← word? known word with
    | .positional =>
      let a ← arguments? known words
      return { a with positional := word :: a.positional }
    | .endOfSwitches => return { positional := words }
    | .switches found => return (← arguments? known words).withSwitches found
    | .wantsValue found last =>
      match words with
      | [] => none
      | value :: words => return (← arguments? known words).withSwitches (found ++ [(last, value)])

end Groundwork.CommandLine
