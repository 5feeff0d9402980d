import CardShell.Text.Width

/-!
# Box-drawn grids

A grid is a header row and body rows of cells.  A cell has one or more lines and
is set left or right in its column; a column is as wide as its widest line and
at least one wide, a row as high as its highest cell.  Every line of the drawing
has the same display width by the measure that it is drawn with.
-/

namespace CardShell.Rendering

/-- A cell: its lines from top to bottom, and the side it is set to. -/
structure Cell where
  lines : List (List Char)
  toRight : Bool
deriving DecidableEq, Repr, Inhabited

namespace Cell

/-- A text cut at its line ends, set left. -/
def left (text : String) : Cell :=
  ⟨text.toList.splitOn '\n', false⟩

/-- A text cut at its line ends, set right. -/
def right (text : String) : Cell :=
  ⟨text.toList.splitOn '\n', true⟩

/-- The display width of the widest line. -/
def width (measure : Text.Measure) (cell : Cell) : Nat :=
  (cell.lines.map measure.width).foldl max 0

/-- The number of lines. -/
def height (cell : Cell) : Nat :=
  cell.lines.length

/-- Fill a line up to a display width. -/
def pad (measure : Text.Measure) (toRight : Bool) (width : Nat) (line : List Char) : List Char :=
  let filling := List.replicate (width - measure.width line) ' '
  if toRight then filling ++ line else line ++ filling

/-- The line at an index, filled up; below the last line a cell is blank. -/
def lineAt (measure : Text.Measure) (cell : Cell) (width index : Nat) : List Char :=
  pad measure cell.toRight width (cell.lines[index]?.getD [])

end Cell

/-- A header and body rows, all with the same number of cells. -/
structure Grid where
  header : List Cell
  rows : List (List Cell)
deriving DecidableEq, Repr, Inhabited

/-- The corners and lines of one horizontal rule. -/
structure Rule where
  leftEnd : Char
  line : Char
  crossing : Char
  rightEnd : Char

namespace Rule

/-- The rule above the header. -/
def top : Rule :=
  ⟨'┌', '─', '┬', '┐'⟩

/-- The rule between header and body. -/
def belowHeader : Rule :=
  ⟨'╞', '═', '╪', '╡'⟩

/-- The rule below the body. -/
def bottom : Rule :=
  ⟨'└', '─', '┴', '┘'⟩

/-- Draw a rule over columns, each with one column of padding on both sides. -/
def draw (rule : Rule) (widths : List Nat) : List Char :=
  rule.leftEnd ::
    ([rule.crossing].intercalate
      (widths.map fun width => List.replicate (width + 2) rule.line) ++ [rule.rightEnd])

end Rule

namespace Grid

section Drawing

variable (measure : Text.Measure)

/-- The width of the column at an index. -/
def columnWidth (rows : List (List Cell)) (index : Nat) : Nat :=
  (rows.map fun row => (row[index]?.map (Cell.width measure)).getD 0).foldl max 1

/-- The widths of all columns. -/
def widths (grid : Grid) : List Nat :=
  (List.range grid.header.length).map (columnWidth measure (grid.header :: grid.rows))

/-- The height of a row. -/
def rowHeight (row : List Cell) : Nat :=
  (row.map Cell.height).foldl max 0

/-- Draw one line of a row. -/
def drawLine (widths : List Nat) (row : List Cell) (index : Nat) : List Char :=
  ['│', ' '] ++
    [' ', '┆', ' '].intercalate
      ((row.zip widths).map fun column => column.1.lineAt measure column.2 index) ++
    [' ', '│']

/-- Draw all lines of a row. -/
def drawRow (widths : List Nat) (row : List Cell) : List (List Char) :=
  (List.range (rowHeight row)).map (drawLine measure widths row)

/-- The lines of the drawing. -/
def draw (grid : Grid) : List (List Char) :=
  let widths := grid.widths measure
  Rule.top.draw widths :: drawRow measure widths grid.header ++
    Rule.belowHeader.draw widths :: grid.rows.flatMap (drawRow measure widths) ++
    [Rule.bottom.draw widths]

/-- The drawing as one text, without a line end behind the last line. -/
def text (grid : Grid) : String :=
  String.ofList (['\n'].intercalate (grid.draw measure))

end Drawing

end Grid

end CardShell.Rendering
