-- SUMMARY: Tables drawn with box characters.
import FieldedSearch.Terminal.Line
import FieldedSearch.Terminal.Markup

/-!
# Tables

The heads of the columns stand in a heavy box, the rows in a light one below it. A
column is as wide as its widest line, with a space on either side. Heads and cells
are marked-up texts. As line separators of every kind count for the width, but only line
feeds part the lines that are drawn, a line may still have to be broken or cut. Heads of
fewer lines than others stand at the bottom of their row, cells at the top.
-/

namespace FieldedSearch.Terminal

/-- A column with its head, whether its cells are moved to the right, and whether lines
that do not fit are cut instead of broken. -/
structure Column where
  head : String
  rightAligned : Bool
  unbroken : Bool
deriving DecidableEq, Repr

/-- The characters of a horizontal line: at its ends, along it, and between columns. -/
structure Rule where
  left : Char
  along : Char
  between : Char
  right : Char

def topRule : Rule := ⟨'┏', '━', '┳', '┓'⟩

def headRule : Rule := ⟨'┡', '━', '╇', '┩'⟩

def bottomRule : Rule := ⟨'└', '─', '┴', '┘'⟩

/-- A horizontal line across columns. -/
def Rule.draw (r : Rule) (widths : List Nat) : List Char :=
  let stretches := widths.map fun w => List.replicate (w + 2) r.along
  r.left :: [r.between].intercalate stretches ++ [r.right]

/-- One line of a row, with a bar beside each cell. -/
def drawLine (bar : Char) (cells : List (List Char)) : List Char :=
  bar :: cells.flatMap fun cell => ' ' :: cell ++ [' ', bar]

/-- The lines of a row. A cell with fewer lines than others has empty ones below its
own, or above them if it stands `low`. -/
def drawRow (bar : Char) (low : Bool) (columns : List (Column × Nat)) (cells : List String) :
    List (List Char) :=
  let parts := (columns.zip cells).map fun ((column, width), cell) =>
    (width, fit width column.unbroken column.rightAligned cell)
  let height := (parts.map fun (_, part) => part.length).foldl max 1
  let filled := parts.map fun (width, part) =>
    let empty := List.replicate (height - part.length) (List.replicate width ' ')
    if low then empty ++ part else part ++ empty
  (List.range height).map fun i => drawLine bar (filled.map fun part => part.getD i [])

def columnWidths (heads : List String) (rows : List (List String)) : List Nat :=
  rows.foldl (fun widths row => (widths.zip row).map fun (w, cell) => max w (cellWidth cell))
    (heads.map cellWidth)

/-- What is shown of the head and the cells of a column. -/
def showColumn (rows : List (List String)) (column : Column) (i : Nat) :
    Except Failure (List (String × Option Failure)) :=
  (column.head :: rows.map fun row => row.getD i "").mapM Markup.show?

/-- A table. One without columns is an empty line. Column by column, all heads and cells
have to be well marked up, and then they are drawn. -/
def drawTable (columns : List Column) (rows : List (List String)) : Except Failure String := do
  if columns.isEmpty then return "\n"
  let shown ← columns.zipIdx.mapM fun (column, i) => showColumn rows column i
  if let some e := shown.flatten.findSome? (·.2) then throw e
  let row := fun (i : Nat) => shown.map fun column => (column.getD i ("", none)).1
  let heads := row 0
  let rows := (List.range rows.length).map fun i => row (i + 1)
  let widths := columnWidths heads rows
  let drawn := topRule.draw widths :: drawRow '┃' true (columns.zip widths) heads ++
    headRule.draw widths :: rows.flatMap (drawRow '│' false (columns.zip widths)) ++
    [bottomRule.draw widths]
  return String.ofList (drawn.flatMap (· ++ ['\n']))

end FieldedSearch.Terminal
