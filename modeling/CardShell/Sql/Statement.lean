import CardShell.Sql.Token
import CardShell.Value

/-!
# Statements

A statement selects the rows of one table.  Its condition compares columns with
literal values and joins comparisons by `and`, `or` and `not`.  The type of
column is a parameter: a name while the statement is being read, a place in the
row once its names are resolved.
-/

namespace CardShell.Sql

/-- A condition on the columns of a row. -/
inductive Condition (κ : Type) where
  | compare (column : κ) (comparison : Comparison) (value : Value)
  | isNull (column : κ)
  | like (column : κ) (pattern : Value)
  | oneOf (column : κ) (values : List Value)
  | between (column : κ) (low high : Value)
  | not (condition : Condition κ)
  | and (left right : Condition κ)
  | or (left right : Condition κ)
deriving DecidableEq, Repr

namespace Condition

variable {κ μ ε : Type}

/-- Replace the columns from left to right, stopping at the first failure. -/
def resolve (find : κ → Except ε μ) : Condition κ → Except ε (Condition μ)
  | .compare column comparison value =>
      (find column).map fun found => .compare found comparison value
  | .isNull column => (find column).map .isNull
  | .like column pattern => (find column).map fun found => .like found pattern
  | .oneOf column values => (find column).map fun found => .oneOf found values
  | .between column low high => (find column).map fun found => .between found low high
  | .not condition => (resolve find condition).map .not
  | .and left right => do
      let left ← resolve find left
      let right ← resolve find right
      pure (.and left right)
  | .or left right => do
      let left ← resolve find left
      let right ← resolve find right
      pure (.or left right)

/-- The condition or its negation. -/
def negatedIf (negated : Bool) (condition : Condition κ) : Condition κ :=
  if negated then .not condition else condition

end Condition

/-- A column by which rows are ordered, and the direction. -/
structure OrderTerm (κ : Type) where
  column : κ
  descending : Bool
deriving DecidableEq, Repr

/-- All columns of a table's rows, filtered, grouped, ordered and cut. -/
structure Statement (κ : Type) where
  table : String
  tableOffset : Nat
  condition : Option (Condition κ)
  groupings : List κ
  orderings : List (OrderTerm κ)
  limit : Option Nat
deriving DecidableEq, Repr

/-- A column as written: a name, perhaps with the table in front of it, and the
byte at which it starts. -/
structure ColumnName where
  qualifier : Option String
  name : String
  offset : Nat
deriving DecidableEq, Repr

/-- The wording of a column name in messages. -/
def ColumnName.shown (column : ColumnName) : String :=
  match column.qualifier with
  | some table => table ++ "." ++ column.name
  | none => column.name

end CardShell.Sql
