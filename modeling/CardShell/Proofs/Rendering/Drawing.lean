import CardShell.Proofs.Text.Columns
import CardShell.Rendering.Grid
import Mathlib

/-!
# Drawn grids

A drawing is a rectangle: every line of it is as wide as its columns with their padding and
borders, since each cell is filled up to the width of its column.  So the lines of a cell
stand where the widths of the columns in front and the heights of the rows above put them,
and can be cut out there again.  That holds by any measure of the characters between the
borders.
-/

namespace CardShell.Rendering

open Text.Measure (blank_mem_seams width_cons)

/-! ## Greatest sizes -/

theorem isGreatest_foldl_max (start : Nat) (sizes : List Nat) :
    IsGreatest {size | size = start ∨ size ∈ sizes} (sizes.foldl max start) := by
  induction sizes generalizing start with
  | nil => exact ⟨.inl rfl, by rintro size (rfl | absurd) <;> [exact le_rfl; contradiction]⟩
  | cons first sizes later =>
      obtain ⟨attained, bound⟩ := later (max start first)
      rw [List.foldl_cons]
      constructor
      · rcases attained with same | member
        · rcases max_choice start first with left | right
          · exact .inl (same.trans left)
          · exact .inr (by rw [same, right]; exact List.mem_cons_self)
        · exact .inr (List.mem_cons_of_mem first member)
      · have least := bound (.inl rfl)
        rintro size (rfl | member)
        · exact (le_max_left size first).trans least
        · rcases List.mem_cons.mp member with rfl | member
          · exact (le_max_right start size).trans least
          · exact bound (.inr member)

section Sizes

variable {measure : Text.Measure}

namespace Cell

theorem isGreatest_width (measure : Text.Measure) (cell : Cell) :
    IsGreatest {size | size = 0 ∨ size ∈ cell.lines.map measure.width} (cell.width measure) :=
  isGreatest_foldl_max 0 _

theorem width_le {cell : Cell} {line : List Char} (member : line ∈ cell.lines) :
    measure.width line ≤ cell.width measure :=
  (cell.isGreatest_width measure).2 (.inr (List.mem_map_of_mem member))

/-- A line that is filled up is as wide as was asked for. -/
theorem width_pad {line : List Char} {width : Nat} (toRight : Bool)
    (fits : measure.width line ≤ width) :
    measure.width (pad measure toRight width line) = width := by
  cases toRight
  · simp only [pad, Bool.false_eq_true, if_false, Text.Measure.width_append_replicate]
    omega
  · simp only [pad, if_true, Text.Measure.width_replicate_append]
    omega

theorem width_lineAt {cell : Cell} {width : Nat} (fits : cell.width measure ≤ width)
    (index : Nat) : measure.width (cell.lineAt measure width index) = width := by
  apply width_pad
  cases found : cell.lines[index]? with
  | none => simp [measure.width_nil]
  | some line => exact (width_le (List.mem_of_getElem? found)).trans fits

end Cell

namespace Grid

theorem width_le_columnWidth (measure : Text.Measure) {rows : List (List Cell)}
    {row : List Cell} (inside : row ∈ rows) {column : Nat} {cell : Cell}
    (found : row[column]? = some cell) :
    cell.width measure ≤ columnWidth measure rows column := by
  refine (isGreatest_foldl_max 1 _).2 (.inr (List.mem_map.mpr ⟨row, inside, ?_⟩))
  rw [found, Option.map_some, Option.getD_some]

/-- The lines of all cells of a column. -/
def columnLines (rows : List (List Cell)) (column : Nat) : Set (List Char) :=
  {line | ∃ row ∈ rows, ∃ cell, row[column]? = some cell ∧ line ∈ cell.lines}

/-- The width of a column is that of the widest line in it, and at least one. -/
theorem isGreatest_columnWidth (rows : List (List Cell)) (column : Nat) :
    IsGreatest ({1} ∪ measure.width '' columnLines rows column)
      (columnWidth measure rows column) := by
  obtain ⟨attained, bound⟩ := isGreatest_foldl_max 1
    (rows.map fun row => (row[column]?.map (Cell.width measure)).getD 0)
  change columnWidth measure rows column = 1 ∨ columnWidth measure rows column ∈ _ at attained
  have positive : 1 ≤ columnWidth measure rows column := bound (.inl rfl)
  constructor
  · rcases attained with one | member
    · exact .inl one
    · right
      obtain ⟨row, inside, size⟩ := List.mem_map.mp member
      cases found : row[column]? with
      | none =>
          rw [found, Option.map_none, Option.getD_none] at size
          omega
      | some cell =>
          rw [found, Option.map_some, Option.getD_some] at size
          rcases (cell.isGreatest_width measure).1 with zero | widest
          · omega
          · obtain ⟨line, present, wide⟩ := List.mem_map.mp widest
            exact ⟨line, ⟨row, inside, cell, found, present⟩, wide.trans size⟩
  · rintro size (rfl | ⟨line, ⟨row, inside, cell, found, present⟩, rfl⟩)
    · exact positive
    · exact (Cell.width_le present).trans (width_le_columnWidth measure inside found)

/-- The height of a row is that of the highest cell in it. -/
theorem isGreatest_rowHeight {row : List Cell} (notNil : row ≠ []) :
    IsGreatest {size | ∃ cell ∈ row, cell.lines.length = size} (rowHeight row) := by
  obtain ⟨attained, bound⟩ := isGreatest_foldl_max 0 (row.map Cell.height)
  change rowHeight row = 0 ∨ rowHeight row ∈ _ at attained
  have bounded : ∀ cell ∈ row, cell.lines.length ≤ rowHeight row :=
    fun cell member => bound (.inr (List.mem_map_of_mem member))
  constructor
  · rcases attained with zero | member
    · obtain ⟨cell, member⟩ := List.exists_mem_of_ne_nil row notNil
      have least := bounded cell member
      exact ⟨cell, member, by omega⟩
    · exact List.mem_map.mp member
  · rintro size ⟨cell, member, rfl⟩
    exact bounded cell member

end Grid

/-! ## Widths of lines -/

/-- Sizes that are all extended by the same. -/
theorem sum_map_add_right (sizes : List Nat) (extra : Nat) :
    (sizes.map (· + extra)).sum = sizes.sum + sizes.length * extra := by
  rw [List.sum_map_add, List.map_id', List.map_const', List.sum_replicate, smul_eq_mul]

/-- Every cell of a row fits in its column. -/
abbrev Fits (measure : Text.Measure) (row : List Cell) (widths : List Nat) : Prop :=
  List.Forall₂ (fun cell width => cell.width measure ≤ width) row widths

/-- The lines of the cells of a row at an index, each filled up to the width of its column. -/
def partsAt (measure : Text.Measure) (widths : List Nat) (row : List Cell) (index : Nat) :
    List (List Char) :=
  (row.zip widths).map fun column => column.1.lineAt measure column.2 index

theorem map_width_partsAt {row : List Cell} {widths : List Nat} (fits : Fits measure row widths)
    (index : Nat) : (partsAt measure widths row index).map measure.width = widths := by
  induction fits with
  | nil => rfl
  | cons narrow _ later =>
      rw [partsAt] at later ⊢
      rw [List.zip_cons_cons, List.map_cons, List.map_cons, later, Cell.width_lineAt narrow]

theorem separator_mem_seams : '┆' ∈ Text.seams := by
  decide

theorem border_mem_seams : '│' ∈ Text.seams := by
  decide

/-- A separator takes three columns, whatever stands on its sides. -/
theorem width_append_separator (left right : List Char) :
    measure.width (left ++ ([' ', '┆', ' '] ++ right)) =
      measure.width left + 3 + measure.width right := by
  simp only [List.cons_append, List.nil_append]
  rw [measure.width_seam ' ' blank_mem_seams, width_cons separator_mem_seams,
    width_cons blank_mem_seams]
  omega

theorem width_intercalate (measure : Text.Measure) {parts : List (List Char)}
    (notNil : parts ≠ []) :
    measure.width ([' ', '┆', ' '].intercalate parts) + 3 =
      ((parts.map measure.width).map (· + 3)).sum := by
  induction parts with
  | nil => contradiction
  | cons part parts later =>
      cases parts with
      | nil => simp
      | cons next parts =>
          have rest := later (List.cons_ne_nil next parts)
          rw [List.intercalate_cons_cons, List.append_assoc, width_append_separator, List.map_cons,
            List.map_cons, List.sum_cons, ← rest]
          omega

theorem Grid.drawLine_eq (widths : List Nat) (row : List Cell) (index : Nat) :
    drawLine measure widths row index =
      '│' :: ' ' :: ([' ', '┆', ' '].intercalate (partsAt measure widths row index) ++
        [' ', '│']) :=
  rfl

/-- Every line of a row is as wide as the columns with their padding and borders. -/
theorem Grid.width_drawLine {row : List Cell} {widths : List Nat} (notNil : widths ≠ [])
    (fits : Fits measure row widths) (index : Nat) :
    measure.width (drawLine measure widths row index) =
      (widths.map (· + 2)).sum + (widths.length + 1) := by
  have inside := map_width_partsAt fits index
  have parts : partsAt measure widths row index ≠ [] := by
    intro nil
    rw [nil, List.map_nil] at inside
    exact notNil inside.symm
  have joined := width_intercalate measure parts
  have closing : measure.width ['│'] = 1 := by
    rw [width_cons border_mem_seams, measure.width_nil]
  rw [inside, sum_map_add_right] at joined
  rw [drawLine_eq, width_cons border_mem_seams, width_cons blank_mem_seams,
    measure.width_seam ' ' blank_mem_seams, closing, sum_map_add_right]
  omega

/-! ## Characters of lines -/

theorem mem_or_exists_of_mem_intercalate {separator : List Char} {parts : List (List Char)}
    {character : Char} (member : character ∈ separator.intercalate parts) :
    character ∈ separator ∨ ∃ part ∈ parts, character ∈ part := by
  induction parts with
  | nil => contradiction
  | cons part parts later =>
      cases parts with
      | nil => exact .inr ⟨part, List.mem_cons_self, by simpa using member⟩
      | cons next parts =>
          rw [List.intercalate_cons_cons, List.mem_append, List.mem_append] at member
          rcases member with (inside | between) | behind
          · exact .inr ⟨part, List.mem_cons_self, inside⟩
          · exact .inl between
          · exact (later behind).imp_right fun ⟨other, found, inside⟩ =>
              ⟨other, List.mem_cons_of_mem part found, inside⟩

/-- The characters of a rule. -/
def Rule.marks (rule : Rule) : List Char :=
  [rule.leftEnd, rule.line, rule.crossing, rule.rightEnd]

theorem Rule.mem_of_mem_draw {rule : Rule} {widths : List Nat} {character : Char}
    (member : character ∈ rule.draw widths) : character ∈ rule.marks := by
  rw [draw, List.mem_cons, List.mem_append, List.mem_singleton] at member
  rcases member with rfl | inside | rfl
  · simp [marks]
  · rcases mem_or_exists_of_mem_intercalate inside with crossing | ⟨run, found, inside⟩
    · simp [marks, List.mem_singleton.mp crossing]
    · obtain ⟨width, -, rfl⟩ := List.mem_map.mp found
      simp [marks, List.eq_of_mem_replicate inside]
  · simp [marks]

theorem length_intercalate_singleton (separator : Char) {parts : List (List Char)}
    (notNil : parts ≠ []) :
    ([separator].intercalate parts).length + 1 = (parts.map fun part => part.length + 1).sum := by
  induction parts with
  | nil => contradiction
  | cons part parts later =>
      cases parts with
      | nil => simp
      | cons next parts =>
          have rest := later (List.cons_ne_nil next parts)
          rw [List.intercalate_cons_cons, List.map_cons, List.sum_cons, ← rest, List.length_append,
            List.length_append, List.length_singleton]
          omega

/-- Every rule is as wide as the columns with their padding and borders. -/
theorem Rule.width_draw {rule : Rule} {widths : List Nat} (notNil : widths ≠ [])
    (seams : rule.marks ⊆ Text.seams) :
    measure.width (rule.draw widths) = (widths.map (· + 2)).sum + (widths.length + 1) := by
  have runs : (widths.map fun width => List.replicate (width + 2) rule.line) ≠ [] := by
    simpa using notNil
  have joined := length_intercalate_singleton rule.crossing runs
  simp only [List.map_map, Function.comp_def, List.length_replicate, Nat.add_assoc,
    Nat.reduceAdd] at joined
  rw [Text.Measure.width_of_seams fun character member => seams (mem_of_mem_draw member), draw,
    List.length_cons, List.length_append, List.length_singleton, joined, sum_map_add_right,
    sum_map_add_right]
  omega

/-- Filling a line up adds blanks only. -/
theorem Cell.mem_or_eq_of_mem_pad {toRight : Bool} {width : Nat} {line : List Char}
    {character : Char} (member : character ∈ pad measure toRight width line) :
    character ∈ line ∨ character = ' ' := by
  cases toRight
  · exact (List.mem_append.mp member).imp_right List.eq_of_mem_replicate
  · exact (List.mem_append.mp member).symm.imp_right List.eq_of_mem_replicate

theorem Cell.not_mem_lineAt {cell : Cell} (unbroken : ∀ line ∈ cell.lines, '\n' ∉ line)
    (width index : Nat) : '\n' ∉ cell.lineAt measure width index := by
  intro member
  rcases mem_or_eq_of_mem_pad member with inside | blank
  · cases found : cell.lines[index]? with
    | none => simp [found] at inside
    | some line =>
        rw [found, Option.getD_some] at inside
        exact unbroken line (List.mem_of_getElem? found) inside
  · exact absurd blank (by decide)

theorem Grid.not_mem_drawLine {row : List Cell}
    (unbroken : ∀ cell ∈ row, ∀ line ∈ cell.lines, '\n' ∉ line) (widths : List Nat)
    (index : Nat) : '\n' ∉ drawLine measure widths row index := by
  have parts : ∀ part ∈ partsAt measure widths row index, '\n' ∉ part := by
    intro part member
    obtain ⟨⟨cell, width⟩, paired, rfl⟩ := List.mem_map.mp member
    exact Cell.not_mem_lineAt (unbroken cell (List.of_mem_zip paired).1) width index
  intro member
  rw [drawLine_eq, List.mem_cons, List.mem_cons, List.mem_append] at member
  rcases member with border | blank | inside | closing
  · exact absurd border (by decide)
  · exact absurd blank (by decide)
  · rcases mem_or_exists_of_mem_intercalate inside with between | ⟨part, found, inside⟩
    · exact absurd between (by decide)
    · exact parts part found inside
  · exact absurd closing (by decide)

/-! ## Parts of lines -/

/-- A part of a line has a blank on both sides, and in front of it are the parts before it
with their separators. -/
theorem exists_split (measure : Text.Measure) {parts : List (List Char)} {column : Nat}
    {part : List Char} (found : parts[column]? = some part) :
    ∃ before after,
      ' ' :: ([' ', '┆', ' '].intercalate parts ++ [' ', '│']) =
        before ++ ' ' :: (part ++ ' ' :: after) ∧
      measure.width before = (((parts.map measure.width).take column).map (· + 3)).sum := by
  induction parts generalizing column with
  | nil => contradiction
  | cons first parts later =>
      cases column with
      | zero =>
          obtain rfl : first = part := Option.some.inj found
          cases parts with
          | nil => exact ⟨[], ['│'], by simp, measure.width_nil⟩
          | cons next parts =>
              refine ⟨[], '┆' :: ' ' :: ([' ', '┆', ' '].intercalate (next :: parts) ++
                [' ', '│']), ?_, measure.width_nil⟩
              rw [List.intercalate_cons_cons]
              simp
      | succ column =>
          rw [List.getElem?_cons_succ] at found
          obtain ⟨before, after, shape, wide⟩ := later found
          cases parts with
          | nil => contradiction
          | cons next parts =>
              refine ⟨' ' :: (first ++ ' ' :: '┆' :: before), after, ?_, ?_⟩
              · rw [List.intercalate_cons_cons]
                simpa using shape
              · rw [width_cons blank_mem_seams, measure.width_seam ' ' blank_mem_seams,
                  width_cons separator_mem_seams, wide]
                simp only [List.map_cons, List.take_succ_cons, List.sum_cons]
                omega

end Sizes

/-- The column of a line in which the content of a column of the grid begins. -/
def contentStart (widths : List Nat) (column : Nat) : Nat :=
  2 + ((widths.take column).map (· + 3)).sum

/-- The line of a cell is what is cut out of the line of its row at its column. -/
theorem Grid.cuts_drawLine_iff {measure : Text.Measure} {row : List Cell} {widths : List Nat}
    (fits : Fits measure row widths) (index : Nat) {column : Nat} {cell : Cell} {width : Nat}
    (found : row[column]? = some cell) (wide : widths[column]? = some width) {part : List Char} :
    measure.Cuts (contentStart widths column) width (drawLine measure widths row index) part ↔
      part = cell.lineAt measure width index := by
  have inside : (partsAt measure widths row index)[column]? =
      some (cell.lineAt measure width index) := by
    have paired : (row.zip widths)[column]? = some (cell, width) :=
      List.getElem?_zip_eq_some.mpr ⟨found, wide⟩
    rw [partsAt, List.getElem?_map, paired, Option.map_some]
  have size : measure.width (cell.lineAt measure width index) = width := by
    have sizes := congrArg (·[column]?) (map_width_partsAt fits index)
    simp only [List.getElem?_map, inside, wide, Option.map_some, Option.some.injEq] at sizes
    exact sizes
  have cut : measure.Cuts (contentStart widths column) width (drawLine measure widths row index)
      (cell.lineAt measure width index) := by
    obtain ⟨before, after, shape, start⟩ := exists_split measure inside
    refine ⟨'│' :: before, after, ?_, ?_, size⟩
    · rw [drawLine_eq, shape, List.cons_append]
    · rw [width_cons border_mem_seams, start, map_width_partsAt fits index, contentStart]
      omega
  exact ⟨fun other => other.unique cut, fun same => same ▸ cut⟩

/-! ## Places of lines -/

/-- The items of a list stand behind one another in its expansion. -/
theorem getElem?_flatMap {α β : Type} {expand : α → List β} {items : List α} {position : Nat}
    {item : α} (found : items[position]? = some item) {index : Nat}
    (inside : index < (expand item).length) :
    (items.flatMap expand)[((items.take position).map fun other => (expand other).length).sum +
      index]? = (expand item)[index]? := by
  induction items generalizing position with
  | nil => contradiction
  | cons first items later =>
      rw [List.flatMap_cons]
      cases position with
      | zero =>
          obtain rfl : first = item := Option.some.inj found
          rw [List.take_zero, List.map_nil, List.sum_nil, Nat.zero_add,
            List.getElem?_append_left inside]
      | succ position =>
          rw [List.getElem?_cons_succ] at found
          rw [List.take_succ_cons, List.map_cons, List.sum_cons, Nat.add_assoc,
            List.getElem?_append_right (Nat.le_add_right _ _), Nat.add_sub_cancel_left,
            later found]

namespace Grid

/-- Every row has as many cells as the header, and the header has one at least. -/
structure Even (grid : Grid) : Prop where
  notNil : grid.header ≠ []
  rows : ∀ row ∈ grid.rows, row.length = grid.header.length

variable {grid : Grid} {measure : Text.Measure}

theorem length_widths (measure : Text.Measure) (grid : Grid) :
    (grid.widths measure).length = grid.header.length := by
  rw [widths, List.length_map, List.length_range]

theorem columnWidth_of_getElem?_widths {column width : Nat}
    (wide : (grid.widths measure)[column]? = some width) :
    columnWidth measure (grid.header :: grid.rows) column = width := by
  obtain ⟨inside, rfl⟩ := List.getElem?_eq_some_iff.mp wide
  simp only [widths, List.getElem_map, List.getElem_range]

theorem Even.fits (even : grid.Even) {row : List Cell} (member : row ∈ grid.header :: grid.rows) :
    Fits measure row (grid.widths measure) := by
  have same : row.length = grid.header.length := by
    rcases List.mem_cons.mp member with rfl | member
    · rfl
    · exact even.rows row member
  refine List.forall₂_iff_get.mpr ⟨same.trans (grid.length_widths measure).symm, ?_⟩
  intro column inside _
  have wide := width_le_columnWidth measure member (List.getElem?_eq_getElem inside)
  simpa only [widths, List.get_eq_getElem, List.getElem_map, List.getElem_range] using wide

theorem getElem?_drawRow {widths : List Nat} {row : List Cell} {index : Nat}
    (inside : index < rowHeight row) :
    (drawRow measure widths row)[index]? = some (drawLine measure widths row index) := by
  rw [drawRow, List.getElem?_map, List.getElem?_range inside, Option.map_some]

theorem length_drawRow (measure : Text.Measure) (widths : List Nat) (row : List Cell) :
    (drawRow measure widths row).length = rowHeight row := by
  rw [drawRow, List.length_map, List.length_range]

theorem draw_eq (measure : Text.Measure) (grid : Grid) :
    grid.draw measure = Rule.top.draw (grid.widths measure) ::
      (drawRow measure (grid.widths measure) grid.header ++
        Rule.belowHeader.draw (grid.widths measure) ::
          (grid.rows.flatMap (drawRow measure (grid.widths measure)) ++
            [Rule.bottom.draw (grid.widths measure)])) := by
  rw [draw, List.cons_append, List.cons_append, List.append_assoc, List.cons_append]

theorem length_draw (measure : Text.Measure) (grid : Grid) :
    (grid.draw measure).length =
      3 + rowHeight grid.header + (grid.rows.map rowHeight).sum := by
  have heights : (grid.rows.map fun row => (drawRow measure (grid.widths measure) row).length) =
      grid.rows.map rowHeight :=
    List.map_congr_left fun row _ => length_drawRow measure (grid.widths measure) row
  rw [draw_eq, List.length_cons, List.length_append, List.length_cons, List.length_append,
    List.length_flatMap, heights, length_drawRow, List.length_singleton]
  omega

/-- The lines of the header are below the upper rule. -/
theorem getElem?_draw_header {index : Nat} (inside : index < rowHeight grid.header) :
    (grid.draw measure)[1 + index]? =
      some (drawLine measure (grid.widths measure) grid.header index) := by
  rw [draw_eq, Nat.add_comm, List.getElem?_cons_succ, List.getElem?_append_left,
    getElem?_drawRow inside]
  rwa [length_drawRow]

/-- The lines of a row are below the header and the rows above it. -/
theorem getElem?_draw_row {position : Nat} {row : List Cell}
    (found : grid.rows[position]? = some row) {index : Nat} (inside : index < rowHeight row) :
    (grid.draw measure)[2 + rowHeight grid.header +
        ((grid.rows.take position).map rowHeight).sum + index]? =
      some (drawLine measure (grid.widths measure) row index) := by
  have drawn : index < (drawRow measure (grid.widths measure) row).length := by
    rwa [length_drawRow]
  have body := getElem?_flatMap found drawn
  simp only [length_drawRow, getElem?_drawRow inside] at body
  obtain ⟨before, _⟩ := List.getElem?_eq_some_iff.mp body
  have behind : 2 + rowHeight grid.header + ((grid.rows.take position).map rowHeight).sum + index =
      (drawRow measure (grid.widths measure) grid.header).length +
        (((grid.rows.take position).map rowHeight).sum + index + 1) + 1 := by
    rw [length_drawRow]
    omega
  rw [draw_eq, behind, List.getElem?_cons_succ, List.getElem?_append_right (Nat.le_add_right _ _),
    Nat.add_sub_cancel_left, List.getElem?_cons_succ, List.getElem?_append_left before, body]

/-- The lines of a drawing are three rules and the lines of its rows. -/
theorem mem_draw_iff {line : List Char} :
    line ∈ grid.draw measure ↔
      (∃ rule ∈ [Rule.top, Rule.belowHeader, Rule.bottom],
        rule.draw (grid.widths measure) = line) ∨
        ∃ row ∈ grid.header :: grid.rows, ∃ index < rowHeight row,
          drawLine measure (grid.widths measure) row index = line := by
  rw [draw_eq]
  simp only [drawRow, List.mem_cons, List.mem_append, List.mem_flatMap, List.mem_map,
    List.mem_range, List.not_mem_nil, or_false, exists_eq_or_imp, exists_eq_left]
  grind

/-- Every line of a drawing is as wide as the columns with their padding and borders. -/
theorem Even.width_of_mem_draw (even : grid.Even) {line : List Char}
    (member : line ∈ grid.draw measure) :
    measure.width line =
      ((grid.widths measure).map (· + 2)).sum + ((grid.widths measure).length + 1) := by
  have notNil : grid.widths measure ≠ [] := by
    intro nil
    have count := grid.length_widths measure
    rw [nil, List.length_nil] at count
    exact even.notNil (List.length_eq_zero_iff.mp count.symm)
  rcases mem_draw_iff.mp member with ⟨rule, known, rfl⟩ | ⟨row, inside, index, -, rfl⟩
  · apply Rule.width_draw notNil
    simp only [List.mem_cons, List.not_mem_nil, or_false] at known
    rcases known with rfl | rfl | rfl <;> decide
  · exact width_drawLine notNil (even.fits inside) index

/-! ## Line ends -/

/-- No cell has a line end within a line. -/
def Unbroken (grid : Grid) : Prop :=
  ∀ row ∈ grid.header :: grid.rows, ∀ cell ∈ row, ∀ line ∈ cell.lines, '\n' ∉ line

/-- No line of a drawing has a line end. -/
theorem Unbroken.not_mem_of_mem_draw (unbroken : grid.Unbroken) {line : List Char}
    (member : line ∈ grid.draw measure) : '\n' ∉ line := by
  rcases mem_draw_iff.mp member with ⟨rule, known, rfl⟩ | ⟨row, inside, index, -, rfl⟩
  · intro drawn
    have mark := Rule.mem_of_mem_draw drawn
    simp only [List.mem_cons, List.not_mem_nil, or_false] at known
    rcases known with rfl | rfl | rfl <;> exact absurd mark (by decide)
  · exact not_mem_drawLine (unbroken row inside) _ index

/-- A drawing is read back line by line. -/
theorem Unbroken.splitOn_text (unbroken : grid.Unbroken) :
    (grid.text measure).toList.splitOn '\n' = grid.draw measure := by
  have notNil : grid.draw measure ≠ [] := by
    rw [draw_eq]
    exact List.cons_ne_nil _ _
  rw [text, String.toList_ofList]
  exact List.splitOn_intercalate '\n' (fun _ member => unbroken.not_mem_of_mem_draw member) notNil

end Grid

end CardShell.Rendering
