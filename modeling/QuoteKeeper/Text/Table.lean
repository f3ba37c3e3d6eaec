/-
  QuoteKeeper.Text.Table — lines of tab-separated cells laid out in aligned columns.

  A line is a list of cells; every cell but the last ends at a tab and belongs to a column,
  the last is the line's tail and is written as it is. Column `j` of a line is as wide as the
  widest cell `j` among the lines around it that all have a column `j` (the run of adjacent
  lines with more than `j` tab-ended cells), plus the padding; a cell is written and then
  filled with spaces to its column's width. Widths count characters.

  This is the rule of a writer that works column by column: a column's block is the run of
  adjacent lines that have the column, inside the block of the column before it; since a line
  with column `j` has every column before it, that run is the block.
-/

namespace QuoteKeeper

namespace Table

/-- How many cells of a line belong to columns. -/
def columns (line : List String) : Nat := line.length - 1

/-- The lines around index `i` that all have column `j`, in a list of lines: those before it,
nearest first, and those from it on, while they have the column. -/
def block (lines : List (List String)) (i j : Nat) : List (List String) :=
  let has (l : List String) : Bool := columns l > j
  let before := ((lines.take i).reverse.takeWhile has)
  let after := (lines.drop i).takeWhile has
  before ++ after

/-- The width of column `j` at line `i`, padding included. -/
def width (padding : Nat) (lines : List (List String)) (i j : Nat) : Nat :=
  ((block lines i j).map fun l => (l.getD j "").length + padding).foldl max 0

/-- One line laid out. -/
def layoutLine (padding : Nat) (lines : List (List String)) (i : Nat) (line : List String) : String :=
  let n := columns line
  String.join ((line.zipIdx).map fun (cell, j) =>
    if j < n then cell.pushn ' ' (width padding lines i j - cell.length) else cell)

/-- The lines laid out in columns. -/
def layout (padding : Nat) (lines : List (List String)) : List String :=
  (lines.zipIdx).map fun (line, i) => layoutLine padding lines i line

/-- Text split into lines of tab-ended cells. A text ending in a line break has no last empty
line. -/
def cellsOf (text : String) : List (List String) :=
  let ls := text.splitOn "\n"
  let ls := if text.endsWith "\n" then ls.dropLast else ls
  ls.map (·.splitOn "\t")

/-- Text laid out in columns, one string per line. -/
def render (padding : Nat) (text : String) : List String := layout padding (cellsOf text)

end Table

end QuoteKeeper
