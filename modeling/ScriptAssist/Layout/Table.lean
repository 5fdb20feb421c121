import ScriptAssist.Decimal.Double
import ScriptAssist.Layout.Terminal

/-!
# Tables of text

A table has a title, a head and rows of cells. Every column is as wide as its longest line, and a
cell may have several lines. Where the terminal is too narrow, the widest columns give way. The
title is in the middle.
-/

namespace ScriptAssist.Layout

structure Table where
  title : Text
  head : List Text
  rows : List (List Text)

def isLineEnd (c : Char) : Bool :=
  let n := c.toNat
  (10 ≤ n && n ≤ 13) || (28 ≤ n && n ≤ 30) || n == 0x85 || n == 0x2028 || n == 0x2029

def cellWidth (cell : Text) : Nat :=
  ((Text.splitOn '\n' (cell.map fun c => if isLineEnd c then '\n' else c)).map width).foldl max 0

/-- A text in the middle of a width; of an odd number of blanks the last one is on the right. -/
def centered (cells : Nat) (text : Text) : Text :=
  padRight cells (List.replicate ((cells - width text) / 2) ' ' ++ text)

structure Strokes where
  left : Char
  fill : Char
  cross : Char
  right : Char

def Strokes.line (strokes : Strokes) (widths : List Nat) : Text :=
  strokes.left ::
    [strokes.cross].intercalate (widths.map fun width => List.replicate width strokes.fill) ++
    [strokes.right]

def topStrokes : Strokes := ⟨'┏', '━', '┳', '┓'⟩
def headStrokes : Strokes := ⟨'┡', '━', '╇', '┩'⟩
def bottomStrokes : Strokes := ⟨'└', '─', '┴', '┘'⟩

/-! ### Widths of columns

A width counts the blanks on both sides of a cell. -/

namespace Columns

def padding : Nat := 2

def total (widths : List Nat) : Nat :=
  widths.foldl (· + ·) 0

/-- Takes cells from columns in equal parts, at most `limit` from each. Only the columns as wide as
`widest` give; `givers` of them are left. -/
def reduce (limit widest : Nat) (excess givers : Nat) : List Nat → List Nat
  | [] => []
  | width :: rest =>
    if width = widest && givers != 0 then
      let taken := min limit (Double.roundDiv excess givers)
      (width - taken) :: reduce limit widest (excess - taken) (givers - 1) rest
    else width :: reduce limit widest excess givers rest

/-- Makes the widest columns as narrow as the next ones, until there is room. -/
def collapse (room : Nat) : Nat → List Nat → List Nat
  | 0, widths => widths
  | fuel + 1, widths =>
    let excess := total widths - room
    if excess == 0 then widths
    else
      let widest := widths.foldl max 0
      let second := (widths.filter (· != widest)).foldl max 0
      let limit := min excess (widest - second)
      collapse room fuel (reduce limit widest excess (widths.count widest) widths)

end Columns

namespace Table

def strokeCells (table : Table) : Nat :=
  table.head.length + 1

def room (table : Table) : Nat :=
  terminalWidth - table.strokeCells

def columnWidth (table : Table) (column : Nat) : Nat :=
  let cells := (table.head :: table.rows).map fun row => (row[column]?).getD []
  min ((cells.map cellWidth).foldl max 0 + Columns.padding) table.room

def widths (table : Table) : List Nat :=
  Columns.collapse table.room (table.head.length + 1)
    ((List.range table.head.length).map table.columnWidth)

def rowLine (bar : Char) (cells : List Text) : Text :=
  bar :: [bar].intercalate (cells.map fun cell => ' ' :: cell ++ [' ']) ++ [bar]

def rowLines (bar : Char) (widths : List Nat) (row : List Text) : List Text :=
  let columns := (widths.zip row).map fun (width, cell) =>
    (width - Columns.padding, wrap (width - Columns.padding) .ellipsis cell)
  let height := (columns.map fun (_, lines) => lines.length).foldl max 1
  (List.range height).map fun line =>
    rowLine bar (columns.map fun (width, lines) => padRight width ((lines[line]?).getD []))

def lines (table : Table) : List Text :=
  let widths := table.widths
  [centered (Columns.total widths + table.strokeCells) table.title, topStrokes.line widths] ++
    rowLines '┃' widths table.head ++ [headStrokes.line widths] ++
    table.rows.flatMap (rowLines '│' widths) ++ [bottomStrokes.line widths]

end Table

end ScriptAssist.Layout
