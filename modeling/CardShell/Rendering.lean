import CardShell.Cursor
import CardShell.Rendering.Grid

/-!
# Results as text

A result is shown as a grid whose first column counts the rows from zero, a
single row as a list of names and values, and the columns of an entity as two
lists.  Long texts are clamped in grids, and nowhere else.
-/

namespace CardShell.Rendering

/-- The number of characters of a text that a grid shows. -/
def maxTextLength : Nat :=
  80

/-- The first characters of a text, with dots when there are more. -/
def clamp (text : String) (length : Nat) : String :=
  let characters := text.toList
  if characters.length ≤ length then text
  else String.ofList (characters.take length) ++ "..."

/-- The cell of a value.  Numbers are set right; a missing value leaves the cell
empty. -/
def valueCell : Option Value → Cell
  | none => .left ""
  | some (.text text) => .left (clamp text maxTextLength)
  | some value => if value.isNumber then .right value.shown else .left value.shown

/-- The cells of a row behind its index. -/
def rowCells (columns : List String) (index : Nat) (row : Row) : List Cell :=
  .right (Text.ofNat index) :: columns.map fun column => valueCell (row.get? column)

/-- The grid of a result. -/
def resultGrid (columns : List String) (rows : List Row) : Grid :=
  { header := .left "#" :: columns.map Cell.left
    rows := rows.zipIdx.map fun entry => rowCells columns entry.2 entry.1 }

theorem getElem?_rows_resultGrid (columns : List String) (rows : List Row) (index : Nat) :
    (resultGrid columns rows).rows[index]? = rows[index]?.map (rowCells columns index) := by
  simp only [resultGrid, List.getElem?_map, List.getElem?_zipIdx, Option.map_map, Nat.zero_add,
    Function.comp_def]

/-- A result: its grid and, below, the number of rows. -/
def result (measure : Text.Measure) (columns : List String) (rows : List Row) : String :=
  (resultGrid columns rows).text measure ++ "\n(" ++ Text.ofNat rows.length ++ " rows)"

/-- A row: one line per entry, the names set right over the longest one. -/
def detail (detail : Detail) : String :=
  let longest := (detail.entries.map fun entry => entry.1.length).foldl max 0
  String.intercalate "\n" (detail.entries.map fun entry =>
    String.ofList (List.replicate (longest - entry.1.length) ' ') ++ entry.1 ++ ": " ++
      entry.2.shown)

/-- The columns of an entity: those it has and those that are shown. -/
def columnLists (available : List String) (chosen : Option (List String)) : String :=
  let shown :=
    match chosen with
    | some columns => String.intercalate ", " columns
    | none => "(all)"
  "Available: [" ++ String.intercalate ", " available ++ "]\nShown: [" ++ shown ++ "]"

end CardShell.Rendering
