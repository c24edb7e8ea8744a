import Columnar.Text.Split
import Columnar.Text.Width

/-!
# Grids

A grid is drawn with lines around its header and its body and between its columns. Cells may have
several lines, and each column is as wide as its widest line.

## Main definitions

- `Grid`: header and rows of texts.
- `Grid.lines`: the lines of the drawing.
-/

namespace Columnar.Command

structure Grid where
  header : List String
  rows : List (List String)

namespace Grid

def cellLines (cell : String) : List (List Char) := Text.splitOn '\n' cell.toList

def cellWidth (cell : String) : Nat :=
  ((cellLines cell).map Text.width).foldl max 0

/-- The greater of two numbers in each place. -/
def maxEach (a b : List Nat) : List Nat := List.zipWith max a b

/-- Width of each column, which is not nothing. -/
def widths (g : Grid) : List Nat :=
  (g.rows.map fun row => row.map cellWidth).foldl maxEach
    (g.header.map fun cell => max 1 (cellWidth cell))

def framed (width : Nat) (line : List Char) : List Char :=
  ' ' :: line ++ List.replicate (width - Text.width line) ' ' ++ [' ']

def between (parts : List (List Char)) : String :=
  String.ofList ('|' :: parts.flatMap fun part => part ++ ['|'])

/-- The lines of a row; a cell that has no more lines is left blank. -/
def rowLines (widths : List Nat) (row : List String) : List String :=
  let cells := row.map cellLines
  let height := (cells.map List.length).foldl max 1
  (List.range height).map fun i =>
    between (List.zipWith framed widths (cells.map fun lines => (lines[i]?).getD []))

def border (widths : List Nat) : String :=
  String.ofList ('+' :: widths.flatMap fun width => List.replicate (width + 2) '-' ++ ['+'])

def lines (g : Grid) : List String :=
  let widths := g.widths
  border widths :: rowLines widths g.header ++ border widths :: g.rows.flatMap (rowLines widths)
    ++ [border widths]

end Grid

end Columnar.Command
