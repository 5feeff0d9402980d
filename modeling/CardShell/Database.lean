import CardShell.Binary64.Significant
import CardShell.Sql.Like
import CardShell.Sql.Reader
import CardShell.Sql.Truth
import CardShell.Value.Order

/-!
# Tables and statements on them

A database holds tables with rows in the order of their insertion, and views.
The declared type of a column converts what is stored in it and what it is
compared with.  A statement is read, its names are resolved against the table,
and its result is a list of rows: those on which the condition is true, one for
each group, ordered, and cut at the limit.
-/

namespace CardShell.Database

/-- The declared type of a column. -/
inductive Affinity where
  | none
  | text
  | integer
deriving DecidableEq, Repr

namespace Affinity

/-- The integer that a number equals, if it lies strictly between the ends of the
signed 64-bit words. -/
def wholeNumber? (number : Binary64) : Option Int :=
  number.toInt?.filter fun value => Text.minInt64 < value && value < Text.maxInt64

/-- The blanks that may stand around a number: those between lexemes and the vertical
tab. -/
def isBlank (character : Char) : Bool :=
  Sql.isSpace character || character == '\x0b'

/-- The number that a text is, blanks around it not counted: an integer when it
equals one, and else a binary64 number. -/
def numberOf? (text : String) : Option Value :=
  let trimmed := ((text.toList.dropWhile isBlank).reverse.dropWhile isBlank).reverse
  let (negative, body) : Bool × List Char :=
    match trimmed with
    | '+' :: body => (false, body)
    | '-' :: body => (true, body)
    | body => (false, body)
  if Sql.isNumber body then
    match Sql.numberValue negative body with
    | .real number =>
        match wholeNumber? number with
        | some value => some (.integer value)
        | Option.none => some (.real number)
    | value => some value
  else Option.none

/-- The value under a declared type.  A text column turns numbers into texts, an
integer column turns texts that are numbers into numbers and whole binary64
numbers into integers; nothing else changes. -/
def convert : Affinity → Value → Value
  | .text, .integer value => .text (Text.ofInt value)
  | .text, .real value => (value.significantText?.map Value.text).getD .null
  | .integer, .text value => (numberOf? value).getD (.text value)
  | .integer, .real value =>
      ((wholeNumber? value).map Value.integer).getD (.real value)
  | _, value => value

end Affinity

/-- A column of a table. -/
structure Column where
  name : String
  affinity : Affinity
deriving DecidableEq, Repr

/-- A table with its rows in the order of their insertion. -/
structure Table where
  name : String
  columns : List Column
  rows : List (List Value)
deriving DecidableEq, Repr

/-- The form in which a value is stored.  There is no stored NaN. -/
def stored (affinity : Affinity) (value : Value) : Value :=
  match value with
  | .real number => if number.isNaN then .null else affinity.convert value
  | _ => affinity.convert value

namespace Table

/-- The names of the columns. -/
def columnNames (table : Table) : List String :=
  table.columns.map Column.name

/-- Insert rows. -/
def insert (table : Table) (rows : List (List Value)) : Table :=
  { table with
    rows := table.rows ++ rows.map fun row =>
      List.zipWith (fun column value => stored column.affinity value) table.columns row }

end Table

/-! ## Conditions on a row -/

/-- A column in its table: the position of its values and its declared type. -/
structure Field where
  position : Nat
  affinity : Affinity
deriving DecidableEq, Repr

/-- The value of a field in a row. -/
def Field.value (field : Field) (row : List Value) : Value :=
  row[field.position]?.getD .null

/-- Whether an order answers a comparison. -/
def holds : Sql.Comparison → Ordering → Bool
  | .equal, order => order == .eq
  | .unequal, order => order != .eq
  | .less, order => order == .lt
  | .atMost, order => order != .gt
  | .greater, order => order == .gt
  | .atLeast, order => order != .lt

/-- Compare a field with a literal, which is first converted to the declared
type of the field.  With a null on either side the answer is undecided. -/
def comparison (field : Field) (row : List Value) (comparison : Sql.Comparison)
    (literal : Value) : Sql.Truth :=
  let value := field.value row
  if value.isNull || literal.isNull then Option.none
  else some (holds comparison (value.compare (field.affinity.convert literal)))

/-- The characters of a byte string read as UTF-8, or else byte by byte. -/
def bytesText (bytes : List UInt8) : List Char :=
  match String.fromUTF8? ⟨bytes.toArray⟩ with
  | some text => text.toList
  | Option.none => bytes.map fun byte => Char.ofNat byte.toNat

/-- The text that patterns are matched with; a null has none. -/
def patternText? : Value → Option (List Char)
  | .null => Option.none
  | .integer value => some (Text.ofInt value).toList
  | .real value => value.significantText?.map String.toList
  | .text value => some value.toList
  | .blob bytes => some (bytesText bytes)

/-- What a condition says of a row. -/
def truth (row : List Value) : Sql.Condition Field → Sql.Truth
  | .compare field sign literal => comparison field row sign literal
  | .isNull field => some (field.value row).isNull
  | .like field pattern =>
      match patternText? (field.value row), patternText? pattern with
      | some text, some pattern => some (Sql.like pattern text)
      | _, _ => Option.none
  | .oneOf field literals =>
      Sql.Truth.any (literals.map (comparison field row .equal))
  | .between field low high =>
      Sql.Truth.and (comparison field row .atLeast low) (comparison field row .atMost high)
  | .not condition => (truth row condition).not
  | .and left right => Sql.Truth.and (truth row left) (truth row right)
  | .or left right => Sql.Truth.or (truth row left) (truth row right)

/-! ## Running a statement -/

/-- Whether two names are the same up to the case of ASCII letters. -/
def sameName (left right : String) : Bool :=
  left.toLower == right.toLower

/-- The field that a column name means in a table. -/
def resolveColumn (table : Table) (sql : String) (column : Sql.ColumnName) :
    Except StorageError Field :=
  let found :=
    if column.qualifier.all (sameName table.name) then
      table.columns.findIdx? fun candidate => sameName candidate.name column.name
    else Option.none
  match found with
  | some position =>
      .ok ⟨position, (table.columns[position]?.map Column.affinity).getD .none⟩
  | Option.none => .error (.noSuchColumn column.shown sql column.offset)

/-- Resolve the names of a statement: first those of the condition, then those
of the order terms, then those of the group terms. -/
def resolve (table : Table) (sql : String) (statement : Sql.Statement Sql.ColumnName) :
    Except StorageError (Sql.Statement Field) := do
  let condition ← statement.condition.mapM (Sql.Condition.resolve (resolveColumn table sql))
  let orderings ← statement.orderings.mapM fun term =>
    (resolveColumn table sql term.column).map fun field =>
      (⟨field, term.descending⟩ : Sql.OrderTerm Field)
  let groupings ← statement.groupings.mapM (resolveColumn table sql)
  pure { statement with condition, orderings, groupings }

/-- Compare two rows by the first term on which they differ. -/
def compareBy (terms : List (Sql.OrderTerm Field)) (left right : List Value) : Ordering :=
  match terms with
  | [] => .eq
  | term :: terms =>
      let order := (term.column.value left).compare (term.column.value right)
      let order := if term.descending then order.swap else order
      order.then (compareBy terms left right)

/-- Order rows, those that are equal on every term staying as they are. -/
def orderBy (terms : List (Sql.OrderTerm Field)) (rows : List (List Value)) :
    List (List Value) :=
  if terms.isEmpty then rows
  else rows.mergeSort fun left right => compareBy terms left right != .gt

/-- The first row of each run of rows that are equal on every term. -/
def firstOfGroups (terms : List (Sql.OrderTerm Field)) : List (List Value) → List (List Value)
  | [] => []
  | row :: rows =>
      match firstOfGroups terms rows with
      | [] => [row]
      | next :: others =>
          if compareBy terms row next == .eq then row :: others else row :: next :: others

/-- The terms by which rows are brought together in groups.  They take the directions of
the order terms when these are as many. -/
def groupTerms (fields : List Field) (orderings : List (Sql.OrderTerm Field)) :
    List (Sql.OrderTerm Field) :=
  if fields.length = orderings.length then
    List.zipWith (fun field ordering => ⟨field, ordering.descending⟩) fields orderings
  else fields.map fun field => ⟨field, false⟩

/-- One row for each group, in the order of the group terms. -/
def groupBy (fields : List Field) (orderings : List (Sql.OrderTerm Field))
    (rows : List (List Value)) : List (List Value) :=
  if fields.isEmpty then rows
  else
    let terms := groupTerms fields orderings
    firstOfGroups terms (orderBy terms rows)

/-- The rows that a statement selects. -/
def select (statement : Sql.Statement Field) (rows : List (List Value)) : List (List Value) :=
  let kept :=
    match statement.condition with
    | some condition => rows.filter fun row => truth row condition == some true
    | Option.none => rows
  let grouped := groupBy statement.groupings statement.orderings kept
  let ordered := orderBy statement.orderings grouped
  match statement.limit with
  | some count => ordered.take count
  | Option.none => ordered

end Database

/-- A view, which is not queried. -/
structure View where
  name : String
deriving DecidableEq, Repr

/-- Tables and views.  No two tables have the same name. -/
structure Database where
  tables : List Database.Table
  views : List View
  distinct : (tables.map Database.Table.name).Nodup
deriving DecidableEq, Repr

namespace Database

/-- A database without tables. -/
def empty : Database :=
  ⟨[], [], List.nodup_nil⟩

/-- Add a table, unless there is one of its name. -/
def add (database : Database) (table : Table) : Database :=
  if taken : table.name ∈ database.tables.map Table.name then database
  else
    { database with
      tables := database.tables ++ [table]
      distinct := by
        rw [List.map_append, List.nodup_append]
        refine ⟨database.distinct, by simp, ?_⟩
        intro name present other added equal
        rw [List.map_singleton, List.mem_singleton] at added
        exact taken (added ▸ equal ▸ present) }

/-- A database of tables and views. -/
def ofTables (tables : List Table) (views : List View) : Database :=
  tables.foldl add { empty with views }

/-- The table of a name. -/
def table? (database : Database) (name : String) : Option Table :=
  database.tables.find? fun table => table.name == name

/-- Whether a limit is one that rows are counted by: none, or a signed 64-bit number. -/
def counts (limit : Option Nat) : Bool :=
  limit.all fun count => count ≤ Text.maxInt64

/-- The columns and the rows that a statement selects. -/
def run (database : Database) (sql : String) :
    Except StorageError (List String × List (List Value)) := do
  let statement ← Sql.read sql
  match database.table? statement.table with
  | Option.none => .error (.noSuchTable statement.table sql statement.tableOffset)
  | some table => do
      let statement ← resolve table sql statement
      if counts statement.limit then pure (table.columnNames, select statement table.rows)
      else .error (.described "datatype mismatch")

end Database

end CardShell
