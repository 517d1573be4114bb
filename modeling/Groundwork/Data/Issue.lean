import Groundwork.Text.Basic

/-!
# Faults of given data

What can be wrong with a record that is filled from loose data: a value is absent or has the wrong
form. An issue names the key and, within a list, the index.
-/

namespace Groundwork

/-- Why a value was refused. -/
inductive IssueKind where
  | missing
  /-- A text was needed. -/
  | notText
  /-- A text was needed, and the given one has parts that are no characters. -/
  | notUnicode
  /-- A truth value was needed, and the given kind of value never stands for one. -/
  | notTruth
  /-- A truth value was needed, and the given number or text stands for neither. -/
  | unknownTruth
  /-- One of a fixed list of words was needed. -/
  | notListedWord
  /-- A list was needed. -/
  | notList
  deriving DecidableEq, Repr

/-- A refused value and where it stood. -/
structure Issue where
  location : List Text
  kind : IssueKind
  deriving DecidableEq, Repr

end Groundwork
