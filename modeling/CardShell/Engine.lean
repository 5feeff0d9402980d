import CardShell.Database

/-!
# Storage engines

What a session needs of a database: its schema, and the rows that a statement
selects, which may fail to arrive at any row.  An opened file that turns out to
hold no database fails at the first thing that is asked of it.
-/

namespace CardShell

/-- What a schema entry is. -/
inductive SchemaKind where
  | table
  | view
deriving DecidableEq, Repr

/-- An entry of a schema. -/
structure SchemaItem where
  kind : SchemaKind
  name : String
  columns : List String
deriving DecidableEq, Repr

/-- A statement that is ready: the columns of its rows and the rows one by
one. -/
structure Prepared where
  columns : List String
  rows : List (Except StorageError (List Value))

namespace Prepared

/-- All rows, or the first failure. -/
def collect (prepared : Prepared) : Except StorageError (List Row) :=
  prepared.rows.mapM fun row => row.map (Row.ofValues prepared.columns)

end Prepared

/-- A database of some kind. -/
class Engine (δ : Type) where
  /-- The tables and views, in any order. -/
  schema : δ → Except StorageError (List SchemaItem)
  /-- Get a statement ready. -/
  prepare : δ → String → Except StorageError Prepared

namespace Engine

variable {δ : Type} [Engine δ]

/-- The rows that a statement selects. -/
def query (database : δ) (sql : String) : Except StorageError (List Row) := do
  (← prepare database sql).collect

/-- The pattern of the names that are kept from listings. -/
def internalPattern : List Char :=
  "sqlite_%".toList

/-- Whether a name is kept from listings. -/
def isInternal (name : String) : Bool :=
  Sql.like internalPattern name.toList

/-- The tables of a schema that are listed, in the byte order of their
names. -/
def listed (items : List SchemaItem) : List SchemaItem :=
  (items.filter fun item => item.kind == .table && !isInternal item.name).mergeSort
    fun left right => Text.compareText left.name right.name != .gt

/-- The listed tables of a database. -/
def tables (database : δ) : Except StorageError (List SchemaItem) :=
  (schema database).map listed

end Engine

namespace Database

/-- The schema of a database. -/
def schemaItems (database : Database) : List SchemaItem :=
  database.tables.map (fun table => ⟨.table, table.name, table.columnNames⟩) ++
    database.views.map fun view => ⟨.view, view.name, []⟩

/-- Get a statement ready.  No row fails. -/
def prepared (database : Database) (sql : String) : Except StorageError Prepared :=
  (database.run sql).map fun result => ⟨result.1, result.2.map Except.ok⟩

instance : Engine Database where
  schema database := .ok database.schemaItems
  prepare := prepared

end Database

/-- An opened database file. -/
inductive Handle where
  | database (content : Database)
  | /-- The file holds no database. -/
    unreadable
deriving DecidableEq, Repr

namespace Handle

/-- The database in the file. -/
def content : Handle → Except StorageError Database
  | .database content => .ok content
  | .unreadable => .error .notADatabase

instance : Engine Handle where
  schema handle := handle.content.bind Engine.schema
  prepare handle sql := handle.content.bind fun content => Engine.prepare content sql

end Handle

end CardShell
