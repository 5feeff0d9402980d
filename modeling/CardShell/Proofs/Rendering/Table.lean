import CardShell.Proofs.Rendering.Drawing
import CardShell.Proofs.Text.Numerals
import CardShell.Proofs.Text.Trimming
import CardShell.Rendering

/-!
# Tables of results

A result is drawn as a table of texts, the number of each row in front.  The table is a
rectangle, whatever characters its texts have, and every line of every text can be cut out
of it at the place that the sizes of the columns and rows give.
-/

namespace CardShell.Rendering

/-! ## Texts of a table -/

/-- The lines of a text. -/
def textLines (text : String) : List (List Char) :=
  text.toList.splitOn '\n'

/-- What a table shows of a value: nothing where there is none, and of a text no more than
eighty characters, with dots in place of the others. -/
def shownText : Option Value → String
  | none => ""
  | some (.text text) =>
      if text.toList.length ≤ 80 then text else String.ofList (text.toList.take 80) ++ "..."
  | some value => value.shown

/-- The texts above the columns. -/
def headerTexts (columns : List String) : List String :=
  "#" :: columns

/-- The texts of a row. -/
def rowTexts (columns : List String) (index : Nat) (row : Row) : List String :=
  Text.ofNat index :: columns.map fun column => shownText (row.get? column)

/-- Whether a row is set right in a column: its own number is, and every number that it
has under a name. -/
def isSetRight (columns : List String) (row : Row) : Nat → Bool
  | 0 => true
  | column + 1 => (columns[column]?.bind row.get?).any Value.isNumber

/-- The lines of all texts of a column. -/
def linesUnder (columns : List String) (rows : List Row) (column : Nat) : Set (List Char) :=
  {line | (∃ text, (headerTexts columns)[column]? = some text ∧ line ∈ textLines text) ∨
    ∃ index row, rows[index]? = some row ∧
      ∃ text, (rowTexts columns index row)[column]? = some text ∧ line ∈ textLines text}

/-! ## Layouts -/

/-- The lines of a table with the sizes that its texts give them, and the place of every text
in them. -/
structure Layout (measure : Text.Measure) (columns : List String) (rows : List Row) where
  /-- The widths of the columns, that of the row numbers first. -/
  widths : List Nat
  /-- The number of lines of the header. -/
  headerHeight : Nat
  /-- The numbers of lines of the rows. -/
  heights : List Nat
  /-- The lines from the upper rule to the lower one. -/
  lines : List (List Char)
  length_widths : widths.length = columns.length + 1
  /-- A column is as wide as its widest line, and at least one wide. -/
  isGreatest_width : ∀ column width, widths[column]? = some width →
    IsGreatest ({1} ∪ measure.width '' linesUnder columns rows column) width
  /-- The header is as high as its highest text. -/
  isGreatest_headerHeight :
    IsGreatest {size | ∃ text ∈ headerTexts columns, (textLines text).length = size} headerHeight
  length_heights : heights.length = rows.length
  /-- A row is as high as its highest text. -/
  isGreatest_height : ∀ index row height, rows[index]? = some row →
    heights[index]? = some height →
    IsGreatest {size | ∃ text ∈ rowTexts columns index row, (textLines text).length = size} height
  /-- There are three rules and the lines of the header and the rows. -/
  length_lines : lines.length = 3 + headerHeight + heights.sum
  /-- Every line has a blank on both sides of each column, and borders around the columns. -/
  width_of_mem_lines : ∀ line ∈ lines,
    measure.width line = (widths.map (· + 2)).sum + (widths.length + 1)
  /-- The texts above the columns are set left. -/
  cuts_header : ∀ index < headerHeight, ∃ line, lines[1 + index]? = some line ∧
    ∀ column text width, (headerTexts columns)[column]? = some text →
      widths[column]? = some width →
      let part := (textLines text)[index]?.getD []
      ∀ cut, measure.Cuts (contentStart widths column) width line cut ↔
        cut = part ++ List.replicate (width - measure.width part) ' '
  /-- The texts of a row are set to the side that their values ask for; where a text has no
  more lines there are blanks. -/
  cuts_row : ∀ position row height, rows[position]? = some row →
    heights[position]? = some height → ∀ index < height,
    ∃ line, lines[2 + headerHeight + (heights.take position).sum + index]? = some line ∧
      ∀ column text width, (rowTexts columns position row)[column]? = some text →
        widths[column]? = some width →
        let part := (textLines text)[index]?.getD []
        let blanks := List.replicate (width - measure.width part) ' '
        ∀ cut, measure.Cuts (contentStart widths column) width line cut ↔
          cut = if isSetRight columns row column then blanks ++ part else part ++ blanks

/-! ## Cells and their texts -/

/-- The cells of a row have the lines of texts. -/
def Shows (row : List Cell) (texts : List String) : Prop :=
  row.map Cell.lines = texts.map textLines

namespace Shows

variable {row : List Cell} {texts : List String}

theorem exists_mem_iff (shown : Shows row texts) (holds : List (List Char) → Prop) :
    (∃ cell ∈ row, holds cell.lines) ↔ ∃ text ∈ texts, holds (textLines text) := by
  calc (∃ cell ∈ row, holds cell.lines)
      ↔ ∃ lines ∈ row.map Cell.lines, holds lines := by
        simp only [List.mem_map, exists_exists_and_eq_and]
    _ ↔ ∃ lines ∈ texts.map textLines, holds lines := by rw [shown]
    _ ↔ ∃ text ∈ texts, holds (textLines text) := by
        simp only [List.mem_map, exists_exists_and_eq_and]

theorem length_eq (shown : Shows row texts) : row.length = texts.length := by
  simpa only [List.length_map] using congrArg List.length shown

theorem exists_getElem?_iff (shown : Shows row texts) (column : Nat)
    (holds : List (List Char) → Prop) :
    (∃ cell, row[column]? = some cell ∧ holds cell.lines) ↔
      ∃ text, texts[column]? = some text ∧ holds (textLines text) := by
  calc (∃ cell, row[column]? = some cell ∧ holds cell.lines)
      ↔ ∃ lines, (row.map Cell.lines)[column]? = some lines ∧ holds lines := by
        simp only [List.getElem?_map, Option.map_eq_some_iff, exists_exists_and_eq_and]
    _ ↔ ∃ lines, (texts.map textLines)[column]? = some lines ∧ holds lines := by rw [shown]
    _ ↔ ∃ text, texts[column]? = some text ∧ holds (textLines text) := by
        simp only [List.getElem?_map, Option.map_eq_some_iff, exists_exists_and_eq_and]

theorem isGreatest_rowHeight (shown : Shows row texts) (notNil : texts ≠ []) :
    IsGreatest {size | ∃ text ∈ texts, (textLines text).length = size}
      (Grid.rowHeight row) := by
  have cells : row ≠ [] := by
    intro nil
    exact notNil (List.length_eq_zero_iff.mp (shown.length_eq.symm.trans (by rw [nil]; rfl)))
  have same : {size | ∃ text ∈ texts, (textLines text).length = size} =
      {size | ∃ cell ∈ row, cell.lines.length = size} :=
    Set.ext fun size => (shown.exists_mem_iff fun lines => lines.length = size).symm
  rw [same]
  exact Grid.isGreatest_rowHeight cells

end Shows

/-- The cell of a value has the lines of its text, and is set right for a number. -/
theorem valueCell_eq (value : Option Value) :
    valueCell value = ⟨textLines (shownText value), value.any Value.isNumber⟩ := by
  rcases value with _ | value
  · rfl
  · cases value <;> rfl

variable (columns : List String) (rows : List Row)

theorem shows_header : Shows (resultGrid columns rows).header (headerTexts columns) := by
  rw [Shows, resultGrid, headerTexts, List.map_cons, List.map_cons, List.map_map]
  rfl

theorem shows_row (index : Nat) (row : Row) :
    Shows (rowCells columns index row) (rowTexts columns index row) := by
  rw [Shows, rowCells, rowTexts, List.map_cons, List.map_cons, List.map_map, List.map_map]
  congr 1
  exact List.map_congr_left fun column _ => congrArg Cell.lines (valueCell_eq (row.get? column))

theorem toRight_rowCells {index : Nat} {row : Row} {column : Nat} {cell : Cell}
    (found : (rowCells columns index row)[column]? = some cell) :
    cell.toRight = isSetRight columns row column := by
  cases column with
  | zero =>
      obtain rfl : Cell.right (Text.ofNat index) = cell := Option.some.inj found
      rfl
  | succ column =>
      rw [rowCells, List.getElem?_cons_succ, List.getElem?_map] at found
      obtain ⟨name, named, rfl⟩ := Option.map_eq_some_iff.mp found
      rw [valueCell_eq, isSetRight, named, Option.bind_some]

theorem toRight_header {column : Nat} {cell : Cell}
    (found : (resultGrid columns rows).header[column]? = some cell) : cell.toRight = false := by
  have member : cell ∈ Cell.left "#" :: columns.map Cell.left := List.mem_of_getElem? found
  rcases List.mem_cons.mp member with rfl | member
  · rfl
  · obtain ⟨name, -, rfl⟩ := List.mem_map.mp member
    rfl

/-! ## The grid of a result -/

theorem mem_rows_iff {cells : List Cell} :
    cells ∈ (resultGrid columns rows).rows ↔
      ∃ index row, rows[index]? = some row ∧ rowCells columns index row = cells := by
  simp only [List.mem_iff_getElem?, getElem?_rows_resultGrid, Option.map_eq_some_iff]

/-- Every row of the grid shows texts. -/
theorem exists_shows {cells : List Cell}
    (member : cells ∈ (resultGrid columns rows).header :: (resultGrid columns rows).rows) :
    ∃ texts, Shows cells texts ∧ texts.length = columns.length + 1 := by
  rcases List.mem_cons.mp member with rfl | member
  · exact ⟨_, shows_header columns rows, List.length_cons⟩
  · obtain ⟨index, row, -, rfl⟩ := (mem_rows_iff columns rows).mp member
    exact ⟨_, shows_row columns index row, by rw [rowTexts, List.length_cons, List.length_map]⟩

theorem length_header : (resultGrid columns rows).header.length = columns.length + 1 := by
  rw [(shows_header columns rows).length_eq, headerTexts, List.length_cons]

theorem even_resultGrid : (resultGrid columns rows).Even where
  notNil := List.cons_ne_nil _ _
  rows := by
    intro cells member
    obtain ⟨texts, shown, count⟩ :=
      exists_shows columns rows (List.mem_cons_of_mem _ member)
    rw [shown.length_eq, count, length_header]

theorem unbroken_resultGrid : (resultGrid columns rows).Unbroken := by
  intro cells inside cell member line found
  obtain ⟨texts, shown, -⟩ := exists_shows columns rows inside
  obtain ⟨text, -, cut⟩ :=
    (shown.exists_mem_iff fun lines => line ∈ lines).mp ⟨cell, member, found⟩
  exact Text.not_mem_of_mem_splitOn cut

theorem columnLines_eq (column : Nat) :
    Grid.columnLines ((resultGrid columns rows).header :: (resultGrid columns rows).rows) column =
      linesUnder columns rows column := by
  ext line
  constructor
  · rintro ⟨cells, member, held⟩
    rcases List.mem_cons.mp member with rfl | member
    · exact .inl (((shows_header columns rows).exists_getElem?_iff column (line ∈ ·)).mp held)
    · obtain ⟨index, row, found, rfl⟩ := (mem_rows_iff columns rows).mp member
      exact .inr ⟨index, row, found,
        ((shows_row columns index row).exists_getElem?_iff column (line ∈ ·)).mp held⟩
  · rintro (held | ⟨index, row, found, held⟩)
    · exact ⟨_, List.mem_cons_self,
        ((shows_header columns rows).exists_getElem?_iff column (line ∈ ·)).mpr held⟩
    · have member := (mem_rows_iff columns rows).mpr ⟨index, row, found, rfl⟩
      exact ⟨_, List.mem_cons_of_mem _ member,
        ((shows_row columns index row).exists_getElem?_iff column (line ∈ ·)).mpr held⟩

variable {measure : Text.Measure}

theorem isGreatest_width_resultGrid {column width : Nat}
    (wide : ((resultGrid columns rows).widths measure)[column]? = some width) :
    IsGreatest ({1} ∪ measure.width '' linesUnder columns rows column) width := by
  rw [← columnLines_eq, ← Grid.columnWidth_of_getElem?_widths wide]
  exact Grid.isGreatest_columnWidth _ column

/-- The text of a cell is cut out of the line of its row. -/
theorem cuts_shown_iff {cells : List Cell} {texts : List String}
    (member : cells ∈ (resultGrid columns rows).header :: (resultGrid columns rows).rows)
    (shown : Shows cells texts) (index : Nat) {column width : Nat} {text : String}
    (written : texts[column]? = some text)
    (wide : ((resultGrid columns rows).widths measure)[column]? = some width) :
    ∃ cell, cells[column]? = some cell ∧ ∀ cut,
      measure.Cuts (contentStart ((resultGrid columns rows).widths measure) column) width
          (Grid.drawLine measure ((resultGrid columns rows).widths measure) cells index) cut ↔
        cut = Cell.pad measure cell.toRight width ((textLines text)[index]?.getD []) := by
  obtain ⟨cell, found, lines⟩ :=
    (shown.exists_getElem?_iff column (· = textLines text)).mpr ⟨text, written, rfl⟩
  refine ⟨cell, found, fun cut => ?_⟩
  rw [Grid.cuts_drawLine_iff ((even_resultGrid columns rows).fits member) index found wide,
    Cell.lineAt, lines]

/-- The layout of the grid of a result. -/
def resultLayout (measure : Text.Measure) : Layout measure columns rows where
  widths := (resultGrid columns rows).widths measure
  headerHeight := Grid.rowHeight (resultGrid columns rows).header
  heights := (resultGrid columns rows).rows.map Grid.rowHeight
  lines := (resultGrid columns rows).draw measure
  length_widths := by
    rw [Grid.length_widths, length_header]
  isGreatest_width _ _ wide := isGreatest_width_resultGrid columns rows wide
  isGreatest_headerHeight :=
    (shows_header columns rows).isGreatest_rowHeight (List.cons_ne_nil _ _)
  length_heights := by
    rw [List.length_map, resultGrid, List.length_map, List.length_zipIdx]
  isGreatest_height := by
    intro index row height found high
    rw [List.getElem?_map, getElem?_rows_resultGrid, found] at high
    obtain rfl := Option.some.inj high
    exact (shows_row columns index row).isGreatest_rowHeight (List.cons_ne_nil _ _)
  length_lines := Grid.length_draw measure _
  width_of_mem_lines _ member := (even_resultGrid columns rows).width_of_mem_draw member
  cuts_header := by
    intro index inside
    refine ⟨_, Grid.getElem?_draw_header inside, ?_⟩
    intro column text width written wide part cut
    obtain ⟨cell, found, shown⟩ := cuts_shown_iff columns rows List.mem_cons_self
      (shows_header columns rows) index written wide
    rw [shown, toRight_header columns rows found]
    rfl
  cuts_row := by
    intro position row height found high index inside
    rw [List.getElem?_map, getElem?_rows_resultGrid, found] at high
    obtain rfl := Option.some.inj high
    have drawn : (resultGrid columns rows).rows[position]? =
        some (rowCells columns position row) := by
      rw [getElem?_rows_resultGrid, found, Option.map_some]
    refine ⟨_, List.map_take ▸ Grid.getElem?_draw_row drawn inside, ?_⟩
    intro column text width written wide part blanks cut
    obtain ⟨cell, found, shown⟩ := cuts_shown_iff columns rows
      (List.mem_cons_of_mem _ (List.mem_of_getElem? drawn)) (shows_row columns position row) index
      written wide
    rw [shown, toRight_rowCells columns found]
    rfl

theorem splitOn_result (measure : Text.Measure) :
    (result measure columns rows).toList.splitOn '\n' =
      (resultGrid columns rows).draw measure ++
        [("(" ++ Text.ofNat rows.length ++ " rows)").toList] := by
  have noBreak : '\n' ∉ ("(" ++ Text.ofNat rows.length ++ " rows)").toList := by
    intro member
    rw [String.toList_append, String.toList_append, List.mem_append, List.mem_append] at member
    rcases member with (opening | digit) | closing
    · exact absurd opening (by decide)
    · rw [Text.ofNat, String.toList_ofList] at digit
      exact Text.newline_not_mem_digits rows.length digit
    · exact absurd closing (by decide)
  have shape : (result measure columns rows).toList =
      ((resultGrid columns rows).text measure).toList ++
      '\n' :: ("(" ++ Text.ofNat rows.length ++ " rows)").toList := by
    simp [result]
  rw [shape, Text.splitOn_append_cons, (unbroken_resultGrid columns rows).splitOn_text,
    List.splitOn_eq_singleton noBreak]

/-- Whatever its columns, rows and values are, and however their characters are measured, a
result is drawn as lines of the layout of its texts, with the number of rows in a line below. -/
theorem result_is_rectangular (measure : Text.Measure) (columns : List String)
    (rows : List Row) :
    ∃ layout : Layout measure columns rows,
      (result measure columns rows).toList.splitOn '\n' =
        layout.lines ++ [("(" ++ Text.ofNat rows.length ++ " rows)").toList] :=
  ⟨resultLayout columns rows measure, splitOn_result columns rows measure⟩

/-- Marks and joiners take no columns and wide characters two, so the borders stay below one
another. -/
theorem marks_and_wide_characters_in_columns :
    let columns := ["ne\u0301"]
    let rows : List Row := [⟨["ne\u0301"], [.text "山\u200B"]⟩]
    ∃ layout : Layout .standard columns rows,
      layout.lines =
        ["┌───┬────┐", "│ # ┆ ne\u0301 │", "╞═══╪════╡", "│ 0 ┆ 山\u200B │", "└───┴────┘"].map
          String.toList := by
  intro columns rows
  obtain ⟨layout, drawn⟩ := result_is_rectangular .standard columns rows
  have lines : (result .standard columns rows).toList.splitOn '\n' =
      ["┌───┬────┐", "│ # ┆ ne\u0301 │", "╞═══╪════╡", "│ 0 ┆ 山\u200B │", "└───┴────┘"].map
        String.toList ++ [("(" ++ Text.ofNat rows.length ++ " rows)").toList] := by
    decide +kernel
  exact ⟨layout, List.append_cancel_right (drawn.symm.trans lines)⟩

end CardShell.Rendering
