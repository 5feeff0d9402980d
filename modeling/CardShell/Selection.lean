import CardShell.Catalog
import CardShell.Failure
import CardShell.Text.Quoted

/-!
# Selections

A selection asks for the rows of one entity.  Filters are joined by `AND`, each
in its own parentheses behind the quoted table name; group and order terms are
listed in the order in which they were added; of several limits the last one
counts.  `Selection.sql` is the statement that the storage engine reads.
-/

namespace CardShell

/-- A request for rows of an entity. -/
structure Selection where
  entity : Entity
  filters : List String
  groupings : List String
  orderings : List String
  limit : Option Nat
deriving DecidableEq, Repr, Inhabited

namespace Selection

/-- All rows of an entity. -/
def all (entity : Entity) : Selection :=
  ⟨entity, [], [], [], none⟩

/-- Add one clause. -/
def add (selection : Selection) : Clause → Selection
  | .filter condition => { selection with filters := selection.filters ++ [condition] }
  | .limit count => { selection with limit := some count }
  | .groupBy terms => { selection with groupings := selection.groupings ++ [terms] }
  | .orderBy terms => { selection with orderings := selection.orderings ++ [terms] }

/-- Add clauses from left to right. -/
def addAll (selection : Selection) (clauses : List Clause) : Selection :=
  clauses.foldl add selection

/-- One filter in its parentheses, its first column bound to the table. -/
def filterSql (table condition : String) : String :=
  "(" ++ Text.quoteString table ++ "." ++ condition ++ ")"

/-- A part of the statement, left out when it has no items. -/
def partSql (keyword separator : String) (items : List String) : String :=
  if items.isEmpty then "" else keyword ++ String.intercalate separator items

/-- The statement. -/
def sql (selection : Selection) : String :=
  "SELECT * FROM " ++ Text.quoteString selection.entity.name ++
    partSql " WHERE " " AND " (selection.filters.map (filterSql selection.entity.name)) ++
    partSql " GROUP BY " ", " selection.groupings ++
    partSql " ORDER BY " ", " selection.orderings ++
    match selection.limit with
    | some count => " LIMIT " ++ Text.ofNat count
    | none => ""

end Selection

namespace Catalog

/-- The selection that clauses ask for, of the entity that a name stands
for. -/
def select (catalog : Catalog) (name : String) (clauses : List Clause) :
    Except Failure Selection :=
  match catalog.get? name with
  | some entity => .ok ((Selection.all entity).addAll clauses)
  | none => .error (.entityNotFound name)

/-- The selection that an instruction asks for. -/
def selectInstruction (catalog : Catalog) (instruction : Instruction) :
    Except Failure Selection :=
  catalog.select instruction.entity instruction.clauses

end Catalog

end CardShell
