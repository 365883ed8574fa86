import TransparencyLog.Command.Console
import TransparencyLog.Command.Markup
import TransparencyLog.Text.Wrapping

namespace TransparencyLog.Command.Table

open TransparencyLog.Text

def endsLine (c : Char) : Bool :=
  [0x0A, 0x1C, 0x1D, 0x1E, 0x85, 0x2028, 0x2029].contains c.toNat

/-- The width of the widest line of a cell; `line` is the line so far in reverse. -/
def cellWidthFrom (line : List Char) : List Char → Nat
  | [] => cells line.reverse
  | c :: rest =>
      if endsLine c then max (cells line.reverse) (cellWidthFrom [] rest)
      else cellWidthFrom (c :: line) rest

def cellWidth (cell : List Char) : Nat :=
  cellWidthFrom [] cell

def spaces (count : Nat) : List Char :=
  List.replicate count ' '

def pad (side : Side) (width : Nat) (line : List Char) : List Char :=
  match side with
  | .left => line ++ spaces (width - cells line)
  | .right => spaces (width - cells line) ++ line

def center (width : Nat) (line : List Char) : List Char :=
  let before := (width - cells line) / 2
  pad .left width (spaces before ++ line)

def cellLines (side : Side) (width : Nat) (cell : List Char) : List (List Char) :=
  (wrap .whole width cell).map fun line =>
    let line := trimExcess width line
    match side with
    | .left => pad side width (abridge width line)
    | .right => pad side width (abridge width (trimEnd isSpace line))

def titleLines (width : Nat) (title : List Char) : List (List Char) :=
  (wrap .chopped width title).map fun line =>
    let line := trimEnd isSpace line
    center width (if cells line ≤ width then line else cut width line)

def barLine (left middle right : Char) (cells : List (List Char)) : List Char :=
  left :: List.intercalate [middle] cells ++ [right]

def ruleLine (left line middle right : Char) (widths : List Nat) : List Char :=
  barLine left middle right (widths.map fun width => List.replicate (width + 2) line)

def rowLines (bar : Char) (columns : List (Side × Nat)) (row : List (List Char)) :
    List (List Char) :=
  let cells := (columns.zip row).map fun ((side, width), cell) => (width, cellLines side width cell)
  let height := cells.foldl (fun height cell => max height cell.2.length) 1
  (List.range height).map fun i =>
    barLine bar bar bar (cells.map fun (width, lines) =>
      ' ' :: lines.getD i (spaces width) ++ [' '])

def columnWidths (count : Nat) (rows : List (List (List Char))) : List Nat :=
  rows.foldl
    (fun widths row => (widths.zip row).map fun (width, cell) => max width (cellWidth cell))
    (List.replicate count 0)

def lines (title : String) (columns : List Column) (rows : List (List String)) :
    List (List Char) :=
  let header := columns.map fun column => Markup.chars column.title
  let rows := rows.map fun row => row.map Markup.chars
  let widths := columnWidths columns.length (header :: rows)
  let width := widths.foldl (· + ·) 0 + 3 * widths.length + 1
  let shape := (columns.map Column.side).zip widths
  titleLines width (Markup.chars title) ++
    [ruleLine '┏' '━' '┳' '┓' widths] ++ rowLines '┃' shape header ++
    [ruleLine '┡' '━' '╇' '┩' widths] ++ rows.flatMap (rowLines '│' shape) ++
    [ruleLine '└' '─' '┴' '┘' widths]

/-- Rows without a frame, a blank on each side of a cell. -/
def gridLines (rows : List (List String)) : List (List Char) :=
  let rows := rows.map fun row => row.map Markup.chars
  let widths := columnWidths (rows.headD []).length rows
  rows.map fun row => (widths.zip row).flatMap fun (width, cell) =>
    ' ' :: pad .left width cell ++ [' ']

end TransparencyLog.Command.Table
