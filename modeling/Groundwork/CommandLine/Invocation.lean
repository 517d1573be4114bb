import Groundwork.CommandLine.Arguments
import Groundwork.Options

/-!
# Invocations

What a command line asks for. A command line that names no command, misuses a switch, or gives too
few or too many arguments asks for nothing.
-/

namespace Groundwork.CommandLine

/-- A command that writes files for a model. -/
inductive Generation where
  | model
  | scaffold
  | resource
  | api
  deriving DecidableEq, Repr

/-- What a command line asks for. Commands that work on a project may name its directory. -/
inductive Invocation where
  | generate (what : Generation) (name : Text) (tokens : List Text) (options : Options)
      (project : Option Text)
  | actions (name : Text) (options : Options) (project : Option Text)
  | destroy (kind name : Text) (options : Options) (project : Option Text)
  | settings (write force : Bool) (project : Option Text)
  | version
  | help
  deriving DecidableEq, Repr

/-- Switches of the commands that write files for a model. -/
def generationSwitches : List Switch :=
  [.force, .dryRun, .uuid, .timestamps, .noTimestamps, .project, .help]

/-- The options that switches set. Of the two switches for timestamps the last one counts. -/
def optionsOf (a : Arguments) : Options :=
  let timestamps := a.switches.findRev? fun (s, _) => s = .timestamps || s = .noTimestamps
  { force := a.has .force
    dryRun := a.has .dryRun
    uuid := a.has .uuid
    noTimestamps := timestamps.any fun (s, _) => s = .noTimestamps }

/-- What a command asks for with its arguments, once no help is asked for. -/
def invocation? (command : Text) (words : List Text) : Option Invocation :=
  let read (known : List Switch) (ask : Arguments → Option Invocation) : Option Invocation := do
    let a ← arguments? known words
    if a.has .help then return .help else ask a
  let generation (what : Generation) : Option Invocation :=
    read generationSwitches fun a =>
      match a.positional with
      | [] => none
      | name :: tokens => some (.generate what name tokens (optionsOf a) (a.value? .project))
  let destruction : Option Invocation :=
    read [.dryRun, .project, .help] fun a =>
      match a.positional with
      | [kind, name] => some (.destroy kind name (optionsOf a) (a.value? .project))
      | _ => none
  if command = "model" then generation .model
  else if command = "scaffold" then generation .scaffold
  else if command = "resource" then generation .resource
  else if command = "api" then generation .api
  else if command = "actions" then
    read generationSwitches fun a =>
      match a.positional with
      | [name] => some (.actions name (optionsOf a) (a.value? .project))
      | _ => none
  else if command = "destroy" || command = "d" then destruction
  else if command = "config" then
    read [.init, .force, .project, .help] fun a =>
      match a.positional with
      | [] => some (.settings (a.has .init) (a.has .force) (a.value? .project))
      | _ => none
  else if command = "version" then
    read [.help] fun a => if a.positional.isEmpty then some .version else none
  else none

/-- The command line from its first word that is no switch; `help` says that help was asked for
    before it. -/
def ofWords? (help : Bool) : List Text → Option Invocation
  | [] => if help then some .help else none
  | word :: words =>
    match word? [.help] word with
    | none => none
    | some .endOfSwitches =>
      if help then some .help
      else match words with
        | [] => none
        | command :: words => invocation? command words
    | some .positional => if help then some .help else invocation? word words
    | some _ => ofWords? true words

/-- What a command line asks for. -/
def Invocation.ofWords? (words : List Text) : Option Invocation :=
  CommandLine.ofWords? false words

end Groundwork.CommandLine
