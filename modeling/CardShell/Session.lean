import CardShell.ColumnChoice.Document
import CardShell.Cursor
import CardShell.Files
import CardShell.Instruction.Reader
import CardShell.Selection
import CardShell.Settings

/-!
# Sessions

A session joins two databases into one catalog and remembers the last result.
Each database lends the catalog the tables that belong on its side, and every
entity is queried in the database that lent it.  A query that fails changes
nothing; only a query that succeeds replaces the last result.
-/

namespace CardShell

/-- The two databases of a session. -/
structure Databases (δ : Type) where
  primary : δ
  secondary : δ
deriving DecidableEq, Repr

namespace Databases

variable {δ : Type}

/-- The database of a side. -/
def on (databases : Databases δ) : Side → δ
  | .primary => databases.primary
  | .secondary => databases.secondary

/-- The notice about a table that is on the wrong side. -/
def misplaced : Side → String → Notice
  | .primary => .outsideCatalog
  | .secondary => .shadowsCatalog

/-- The listed tables of a side: those that belong there become entities, and
each of the others gives a notice. -/
def divide (side : Side) (items : List SchemaItem) : List Notice × List Entity :=
  ((items.filter fun item => Side.ofEntity item.name != side).map fun item =>
      misplaced side item.name,
    (items.filter fun item => Side.ofEntity item.name == side).map fun item =>
      ⟨item.name, item.columns⟩)

/-- The entities that one database lends. -/
def lend [Engine δ] (databases : Databases δ) (side : Side) :
    Noted StorageError (List Entity) :=
  match Engine.tables (databases.on side) with
  | .error failure => .fail failure
  | .ok items =>
      let divided := divide side items
      ⟨divided.1, .ok divided.2⟩

/-- The catalog of both databases, the primary one first. -/
def catalog [Engine δ] (databases : Databases δ) : Noted StorageError Catalog :=
  (databases.lend .primary).bind fun primary =>
    (databases.lend .secondary).map fun secondary =>
      (primary ++ secondary).foldl Catalog.insert .empty

end Databases

/-- A selection with the database that answers it. -/
structure Bound (δ : Type) where
  selection : Selection
  side : Side
  database : δ

/-- Bind a selection to the database of its entity. -/
def Databases.bind {δ : Type} (databases : Databases δ) (selection : Selection) : Bound δ :=
  ⟨selection, selection.entity.side, databases.on selection.entity.side⟩

/-- The rows of a bound selection. -/
def Bound.execute {δ : Type} [Engine δ] (bound : Bound δ) : Except StorageError (List Row) :=
  Engine.query bound.database bound.selection.sql

/-- The two databases, what is known of them, and the last result. -/
structure Session (δ : Type) where
  databases : Databases δ
  catalog : Catalog
  choice : ColumnChoice
  cursor : Cursor
  catalogLocation : Location
  inventoryLocation : Location

/-- The answer to a query. -/
structure Report where
  entity : Entity
  side : Side
  columns : List String
  rows : List Row
deriving DecidableEq, Repr

/-- The columns of an entity and the choice among them. -/
structure ColumnReport where
  entity : Entity
  chosen : Option (List String)
deriving DecidableEq, Repr

namespace Session

variable {δ : Type} [Engine δ]

/-- A session on two databases. -/
def ofDatabases (databases : Databases δ) (choice : ColumnChoice) :
    Noted Failure (Session δ) :=
  (databases.catalog.mapError .storage).map fun catalog =>
    ⟨databases, catalog, choice, .empty, .memory, .memory⟩

/-- The bound selection that an instruction asks for, with its rows. -/
def evaluate (session : Session δ) (input : String) : Noted Failure (Bound δ × List Row) :=
  ((Instruction.read input).mapError .instruction).bind fun instruction =>
    .ofExcept <| do
      let selection ← session.catalog.selectInstruction instruction
      let bound := session.databases.bind selection
      let rows ← bound.execute.mapError .storage
      pure (bound, rows)

/-- Remember a result. -/
def record (session : Session δ) (entity : Entity) (rows : List Row) : Session δ :=
  { session with cursor := .record entity rows }

/-- Answer an instruction and, if that succeeds, remember the result. -/
def query (session : Session δ) (input : String) : Session δ × Noted Failure Report :=
  let outcome := session.evaluate input
  let next :=
    match outcome.result with
    | .ok (bound, rows) => session.record bound.selection.entity rows
    | .error _ => session
  (next, outcome.map fun (bound, rows) =>
    ⟨bound.selection.entity, bound.side, session.choice.columnsFor bound.selection.entity, rows⟩)

/-- A row of the last result by its index. -/
def rowAt (session : Session δ) (index : Int) : Except Failure Detail :=
  session.cursor.inspect index session.choice

/-- A row of the last result by a written index. -/
def row (session : Session δ) (input : String) : Except Failure Detail :=
  let text := Text.trim input.toList
  match Text.int64? text with
  | some index => session.rowAt index
  | none => .error (.invalidRowNumber (String.ofList text))

/-- The columns of an entity. -/
def columns (session : Session δ) (input : String) : Except Failure ColumnReport :=
  let name := Text.trimString input
  match session.catalog.get? name with
  | some entity => .ok ⟨entity, session.choice.chosen? entity.name⟩
  | none => .error (.entityNotFound name)

/-- The names of the card catalog database. -/
def catalogAliases : List String :=
  ["m", "mj", "mtgjson", "mtg-json"]

/-- The names of the inventory database. -/
def inventoryAliases : List String :=
  ["i", "in", "inv", "inventory"]

/-- The location that a name of a database stands for. -/
def location? (session : Session δ) (name : String) : Option Location :=
  if catalogAliases.contains name then some session.catalogLocation
  else if inventoryAliases.contains name then some session.inventoryLocation
  else none

/-- The path of a database by one of its names. -/
def databasePath (session : Session δ) (input : String) : Except Failure String :=
  let name := Text.trimString input
  match session.location? name with
  | none => .error (.unknownAlias name)
  | some location =>
      match location.path? with
      | some path => .ok path
      | none => .error (.config (.inMemory name))

/-- Choose the columns of an entity. -/
def choose (session : Session δ) (entity : String) (columns : List String) : Session δ :=
  { session with choice := session.choice.set entity columns }

end Session

namespace Session

/-- The column choice that the settings ask for. -/
def loadChoice (system : FileSystem) (settings : Settings) : Except Failure ColumnChoice :=
  match settings.columnsFile with
  | none => .ok .standard
  | some path => do
      let source ← (system.readText path).mapError .file
      (ColumnChoice.standardWith source).mapError .config

/-- Read the locations and open the databases: first both locations, then the
primary database, then the secondary one, whose file may be made. -/
def openDatabases (system : FileSystem) (settings : Settings) :
    FileSystem × Except Failure (Location × Location × Databases Handle) :=
  let before := do
    let catalog ← settings.catalogLocation.mapError Failure.config
    let inventory ← settings.inventoryLocation.mapError Failure.config
    let primary ← (system.openExisting catalog).mapError Failure.storage
    pure (catalog, inventory, primary)
  match before with
  | .error failure => (system, .error failure)
  | .ok (catalog, inventory, primary) =>
      let (system, secondary) := system.openOrCreate inventory
      (system, (secondary.mapError Failure.storage).map fun secondary =>
        (catalog, inventory, ⟨primary, secondary⟩))

/-- Open a session.  The first failure ends the work: opening the databases,
then loading the column choice, then reading the schemas. -/
def start (system : FileSystem) (settings : Settings) :
    FileSystem × Noted Failure (Session Handle) :=
  let (system, databases) := openDatabases system settings
  let opened := do
    let (catalog, inventory, databases) ← databases
    let choice ← loadChoice system settings
    pure (catalog, inventory, databases, choice)
  (system, (Noted.ofExcept opened).bind fun (catalog, inventory, databases, choice) =>
    (ofDatabases databases choice).map fun session =>
      { session with catalogLocation := catalog, inventoryLocation := inventory })

end Session

end CardShell
