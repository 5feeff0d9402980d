import CardShell.ColumnChoice
import CardShell.Failure
import CardShell.Value

/-!
# The last result

A cursor keeps the entity and the rows of the last query that succeeded.  A row
is inspected by its index; a cursor that never held a result is told apart from
one that holds an empty result.
-/

namespace CardShell

/-- The shown columns of one row with their values. -/
structure Detail where
  entries : List (String × Value)
deriving DecidableEq, Repr, Inhabited

namespace Detail

/-- The value of the first entry of a name. -/
def get? (detail : Detail) (column : String) : Option Value :=
  detail.entries.lookup column

end Detail

/-- The last result, if there was one. -/
structure Cursor where
  entity : Option Entity
  rows : List Row
deriving DecidableEq, Repr, Inhabited

namespace Cursor

/-- A cursor that never held a result. -/
def empty : Cursor :=
  ⟨none, []⟩

/-- Hold a new result. -/
def record (entity : Entity) (rows : List Row) : Cursor :=
  ⟨some entity, rows⟩

/-- The row at an index, counted from zero. -/
def row? (cursor : Cursor) : Int → Option Row
  | .ofNat index => cursor.rows[index]?
  | .negSucc _ => none

/-- The entries of a row that a column choice shows. -/
def detailOf (choice : ColumnChoice) (entity : Entity) (row : Row) : Detail :=
  ⟨row.entries.filter fun entry => choice.shows entity.name entry.1⟩

/-- Inspect the row at an index. -/
def inspect (cursor : Cursor) (index : Int) (choice : ColumnChoice) : Except Failure Detail :=
  match cursor.entity with
  | none => .error .noResults
  | some entity =>
      match cursor.row? index with
      | none => .error (.outOfRange index cursor.rows.length)
      | some row => .ok (detailOf choice entity row)

end Cursor

end CardShell
