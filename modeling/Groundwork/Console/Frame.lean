import Groundwork.Console.Markup

/-!
# Framed output

Boxes, tables and trees drawn with line characters. Each is built from the lines of its parts.
-/

namespace Groundwork.Console

/-- A box over the whole width of the console, with a title in its upper edge. -/
def panel (title text : Text) : Text :=
  let inner := consoleWidth - 4
  Text.lines
    (["╭─" ++ Text.centre inner '─' (" " ++ title ++ " ") ++ "─╮"]
      ++ (layOut .fold inner text).map (fun line => "│ " ++ Text.padRight inner line ++ " │")
      ++ ["╰" ++ List.replicate (inner + 2) '─' ++ "╯"])

/-- The line characters of one edge or one row of a table. -/
structure Rule where
  left : Char
  middle : Char
  right : Char

/-- A horizontal line over columns of the given widths. -/
def edge (rule : Rule) (line : Char) (widths : List Nat) : Text :=
  rule.left :: List.intercalate [rule.middle] (widths.map fun w => List.replicate (w + 2) line)
    ++ [rule.right]

/-- A line of a cell, filled up to the width of its column. A joiner at its end takes in one of the
    spaces, so that another one is needed. -/
def cellLine (columns : Nat) (line : Text) : Text :=
  Text.padRight columns (Text.padRight columns line)

/-- The lines of one row. -/
def row (rule : Rule) (widths : List Nat) (cells : List Text) : List Text :=
  let cells := List.zipWith (layOut .cut) widths cells
  let height := (cells.map List.length).foldl max 1
  (List.range height).map fun i =>
    rule.left :: List.intercalate [rule.middle]
      (List.zipWith (fun w cell => ' ' :: cellLine w (cell.getD i []) ++ [' ']) widths cells)
      ++ [rule.right]

/-- The widths that columns ask for: that of the widest cell in each. -/
def columnWidths : List (List Text) → List Nat
  | [] => []
  | [cells] => cells.map naturalWidth
  | cells :: rows => List.zipWith max (cells.map naturalWidth) (columnWidths rows)

/-- The width of a table whose columns have the given widths. -/
def tableWidth (widths : List Nat) : Nat :=
  widths.foldr (fun columns total => columns + 3 + total) 1

/-- The widths of columns in a table that fits on the console: the widest one gives way. -/
def fitColumns (widths : List Nat) : List Nat :=
  let widest := widths.foldl max 0
  widths.map fun w => if w = widest then w - (tableWidth widths - consoleWidth) else w

/-- A table with a title over it and a row of headings. -/
def table (title : Text) (headings : List Text) (rows : List (List Text)) : Text :=
  let widths := fitColumns (columnWidths (headings :: rows))
  Text.lines
    ([Text.centre (tableWidth widths) ' ' title, edge ⟨'┏', '┳', '┓'⟩ '━' widths]
      ++ row ⟨'┃', '┃', '┃'⟩ widths headings
      ++ [edge ⟨'┡', '╇', '┩'⟩ '━' widths]
      ++ rows.flatMap (row ⟨'│', '│', '│'⟩ widths)
      ++ [edge ⟨'└', '┴', '┘'⟩ '─' widths])

/-- A tree of labels. -/
inductive Tree where
  | node (label : Text) (branches : List Tree)

/-- Columns of the signs before a branch. -/
def branchIndent : Nat := 4

/-- Lines put below a label: the first line after one sign, the others after another. -/
def hang (first later : Text) : List Text → List Text
  | [] => []
  | line :: lines => (first ++ line) :: lines.map (later ++ ·)

mutual

/-- The lines of a tree in a number of columns. -/
def Tree.lines (columns : Nat) : Tree → List Text
  | .node label branches =>
    layOut .fold columns label ++ branchLines (columns - branchIndent) branches

/-- The lines of the branches below a label, where each has a number of columns for itself. -/
def branchLines (columns : Nat) : List Tree → List Text
  | [] => []
  | [branch] => hang "└── " "    " (branch.lines columns)
  | branch :: branches =>
    hang "├── " "│   " (branch.lines columns) ++ branchLines columns branches

end

end Groundwork.Console
