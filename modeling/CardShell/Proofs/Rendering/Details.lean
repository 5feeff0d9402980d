import CardShell.Rendering
import CardShell.Session

/-!
# Tables, details and column lists agree

A result is shown in two ways: as a grid, whose columns are looked up one by one
in every row, and row by row as details, which keep the shown entries of a row.
Both show the same values, also where a row repeats a name or has fewer values
than columns, so the grid of a result is the grid of its details.
-/

namespace CardShell

/-! ## Shown columns -/

namespace ColumnChoice

theorem shows_iff {choice : ColumnChoice} {entity column : String} :
    choice.shows entity column = true ↔
      ∀ columns, choice.chosen? entity = some columns → column ∈ columns := by
  rw [shows]
  cases choice.chosen? entity <;> simp

/-- Every column that an entity's results are shown under is shown in its
details. -/
theorem shows_of_mem_columnsFor {choice : ColumnChoice} {entity : Entity} {column : String}
    (member : column ∈ choice.columnsFor entity) : choice.shows entity.name column = true := by
  rw [shows_iff]
  intro columns chosen
  rwa [columnsFor, chosen, Option.getD_some] at member

theorem chosen?_eq_some_columnsFor {choice : ColumnChoice} {entity : Entity}
    (configured : (choice.chosen? entity.name).isSome) :
    choice.chosen? entity.name = some (choice.columnsFor entity) := by
  obtain ⟨columns, chosen⟩ := Option.isSome_iff_exists.mp configured
  rw [columnsFor, chosen, Option.getD_some]

theorem columnsFor_of_chosen?_eq_none {choice : ColumnChoice} {entity : Entity}
    (unconfigured : choice.chosen? entity.name = none) :
    choice.columnsFor entity = entity.columns := by
  rw [columnsFor, unconfigured, Option.getD_none]

end ColumnChoice

/-! ## Entries -/

/-- Among the entries whose names are shown, a name that is shown finds what it
finds among all entries, and any other name finds nothing. -/
theorem lookup_filter_fst (entries : List (String × Value)) (shown : String → Bool)
    (column : String) :
    (entries.filter fun entry => shown entry.1).lookup column =
      if shown column then entries.lookup column else none := by
  induction entries with
  | nil => simp
  | cons entry entries later =>
      obtain ⟨name, value⟩ := entry
      by_cases same : column = name
      · subst same
        by_cases kept : shown column
        · simp [kept]
        · simp only [List.filter_cons, kept, Bool.false_eq_true, if_false, later]
      · have different : (column == name) = false := beq_false_of_ne same
        by_cases kept : shown name
        · simp only [List.filter_cons, kept, if_true, List.lookup_cons, different, later]
        · simp only [List.filter_cons, kept, Bool.false_eq_true, if_false, List.lookup_cons,
            different, later]

namespace Cursor

/-- A detail finds a shown column as its row does, and no other column. -/
theorem get?_detailOf (choice : ColumnChoice) (entity : Entity) (row : Row) (column : String) :
    (detailOf choice entity row).get? column =
      if choice.shows entity.name column then row.get? column else none := by
  rw [Row.get?_eq_lookup]
  exact lookup_filter_fst row.entries (choice.shows entity.name) column

/-- A detail has every shown entry of its row as often as the row has it, and
nothing else. -/
theorem count_entries_detailOf (choice : ColumnChoice) (entity : Entity) (row : Row)
    (entry : String × Value) :
    (detailOf choice entity row).entries.count entry =
      if choice.shows entity.name entry.1 then row.entries.count entry else 0 := by
  rw [detailOf]
  split
  · rename_i shown
    exact List.count_filter shown
  · rename_i hidden
    rw [List.count_eq_zero]
    intro member
    exact hidden (List.mem_filter.mp member).2

/-- Every row of a new result can be inspected. -/
theorem inspect_record {entity : Entity} {rows : List Row} {index : Nat} {row : Row}
    (found : rows[index]? = some row) (choice : ColumnChoice) :
    (record entity rows).inspect index choice = .ok (detailOf choice entity row) := by
  have inside : (record entity rows).row? (index : Int) = some row :=
    found
  simp only [inspect, inside]
  rfl

end Cursor

/-! ## Grids -/

namespace Rendering

/-- The grid of inspected rows: behind its index, each row shows what its detail
has under the names of the header. -/
def detailGrid (columns : List String) (details : List Detail) : Grid :=
  { header := .left "#" :: columns.map Cell.left
    rows := details.zipIdx.map fun entry =>
      .right (Text.ofNat entry.2) :: columns.map fun column => valueCell (entry.1.get? column) }

/-- The grid of a result is the grid of its details. -/
theorem resultGrid_columnsFor (choice : ColumnChoice) (entity : Entity) (rows : List Row) :
    resultGrid (choice.columnsFor entity) rows =
      detailGrid (choice.columnsFor entity) (rows.map (Cursor.detailOf choice entity)) := by
  rw [resultGrid, detailGrid, List.zipIdx_map, List.map_map]
  congr 1
  apply List.map_congr_left
  intro entry _
  rw [rowCells, Function.comp_apply]
  congr 1
  apply List.map_congr_left
  intro column member
  have found := Cursor.get?_detailOf choice entity entry.1 column
  rw [if_pos (ColumnChoice.shows_of_mem_columnsFor member)] at found
  exact congrArg valueCell found.symm

/-- A result is drawn as the grid of its details, by any measure.  The detail of a row has, in
order, exactly the shown entries of the row, so it finds a shown column as the row
does and no other one; and the columns of the grid are those that a session lists
for the entity. -/
theorem result_agrees_with_details {δ : Type} (choice : ColumnChoice) (entity : Entity)
    (rows : List Row) :
    ∃ details : List Detail, details.length = rows.length ∧
      (∀ (index : Nat) (row : Row) (detail : Detail),
        rows[index]? = some row → details[index]? = some detail →
        (Cursor.record entity rows).inspect index choice = .ok detail ∧
        (∀ column, detail.get? column =
          if choice.shows entity.name column then row.get? column else none) ∧
        detail.entries.Sublist row.entries ∧
        ∀ entry, detail.entries.count entry =
          if choice.shows entity.name entry.1 then row.entries.count entry else 0) ∧
      resultGrid (choice.columnsFor entity) rows =
        detailGrid (choice.columnsFor entity) details ∧
      (∀ measure, result measure (choice.columnsFor entity) rows =
        (detailGrid (choice.columnsFor entity) details).text measure ++
          "\n(" ++ Text.ofNat details.length ++ " rows)") ∧
      ∀ (session : Session δ) (input : String), session.choice = choice →
        session.catalog.get? (Text.trimString input) = some entity →
        ((choice.chosen? entity.name).isSome →
          session.columns input = .ok ⟨entity, some (choice.columnsFor entity)⟩) ∧
        (choice.chosen? entity.name = none →
          session.columns input = .ok ⟨entity, none⟩ ∧
            choice.columnsFor entity = entity.columns) := by
  have grids := resultGrid_columnsFor choice entity rows
  refine ⟨rows.map (Cursor.detailOf choice entity), List.length_map _, ?_, grids, ?_, ?_⟩
  · intro index row detail found inspected
    rw [List.getElem?_map, found] at inspected
    obtain rfl : Cursor.detailOf choice entity row = detail := Option.some.inj inspected
    exact ⟨Cursor.inspect_record found choice, Cursor.get?_detailOf choice entity row,
      List.filter_sublist, Cursor.count_entries_detailOf choice entity row⟩
  · intro measure
    rw [result, grids, List.length_map]
  · rintro session input rfl known
    have listed : session.columns input =
        .ok ⟨entity, session.choice.chosen? entity.name⟩ := by
      simp only [Session.columns, known]
    rw [listed]
    constructor
    · intro configured
      rw [ColumnChoice.chosen?_eq_some_columnsFor configured]
    · intro unconfigured
      exact ⟨by rw [unconfigured], ColumnChoice.columnsFor_of_chosen?_eq_none unconfigured⟩

/-- In a row with a repeated name and too few values, the first value of a name
counts and a column without a value is missing, in both views. -/
theorem result_agrees_on_ragged_row :
    let entity : Entity := ⟨"things", ["name", "name", "power"]⟩
    let row : Row := ⟨["name", "name", "power"], [.text "ring", .integer 1]⟩
    let choice := ColumnChoice.empty.set "things" ["power", "name", "nope"]
    let session : Session Database :=
      ⟨⟨.empty, .empty⟩, Catalog.empty.insert entity, choice, .empty, .memory, .memory⟩
    ∃ detail, (Cursor.record entity [row]).inspect 0 choice = .ok detail ∧
      detail.get? "name" = some (.text "ring") ∧ detail.get? "power" = none ∧
      resultGrid ["power", "name", "nope"] [row] =
        detailGrid ["power", "name", "nope"] [detail] ∧
      session.columns " things " = .ok ⟨entity, some ["power", "name", "nope"]⟩ := by
  intro entity row choice session
  obtain ⟨details, length, inspected, grids, -, listed⟩ :=
    result_agrees_with_details (δ := Database) choice entity [row]
  obtain ⟨detail, rfl⟩ := List.length_eq_one_iff.mp length
  obtain ⟨known, found, -, -⟩ := inspected 0 row detail rfl rfl
  exact ⟨detail, known, found "name", found "power", grids,
    (listed session " things " rfl rfl).1 rfl⟩

end Rendering

end CardShell
