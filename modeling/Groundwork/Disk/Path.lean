import Groundwork.Text.Basic

/-!
# Paths

A path is a list of names. Empty names and `.` are dropped when a path is read, `..` stays, since
what it means depends on the directories that it leads through.
-/

namespace Groundwork

/-- A path. -/
structure Path where
  /-- What an absolute path begins with, one slash or two; empty for relative paths. -/
  anchor : Text := []
  parts : List Text
  deriving DecidableEq, Repr

namespace Path

/-- What a text begins with that is an absolute path: two slashes count apart from all other
    numbers of slashes. -/
def anchorOf (s : Text) : Text :=
  match (s.takeWhile (· = '/')).length with
  | 0 => []
  | 2 => "//"
  | _ => "/"

/-- The names that a text is made of. -/
def partsOf (s : Text) : List Text :=
  (Text.split '/' s).filter fun part => !part.isEmpty && part ≠ ['.']

/-- The path that a text denotes. -/
def ofText (s : Text) : Path := ⟨anchorOf s, partsOf s⟩

/-- The path that a text denotes, starting from `p` unless it is absolute. -/
def join (p : Path) (s : Text) : Path :=
  if (anchorOf s).isEmpty then { p with parts := p.parts ++ partsOf s } else ofText s

/-- The path as text. -/
def render (p : Path) : Text :=
  if p.anchor.isEmpty && p.parts.isEmpty then "."
  else p.anchor ++ List.intercalate "/" p.parts

/-- The path without `..`, each of which takes back the name before it. -/
def withoutClimbs (p : Path) : Path :=
  let climb (above : List Text) (part : Text) : List Text :=
    if part = "..".toList then above.dropLast else above ++ [part]
  { p with parts := p.parts.foldl climb [] }

/-- The path without its last name. -/
def parent (p : Path) : Path := { p with parts := p.parts.dropLast }

end Path

end Groundwork
