import CardShell.Text.Bytes

/-!
# Entities and their catalog

The card catalog has eight tables, each known by its table name and by the name
of its model.  An entity is a table of either database; its name alone decides
the side on which it lives.  A catalog holds entities in the byte order of their
names, at most one of each name, and finds them by name first and by model
second.
-/

namespace CardShell

/-- The tables of the card catalog. -/
inductive CardTable where
  | card
  | set
  | legality
  | ruling
  | foreignData
  | metadata
  | setTranslation
  | token
deriving DecidableEq, Repr

namespace CardTable

/-- Every table of the card catalog. -/
def all : List CardTable :=
  [.card, .set, .legality, .ruling, .foreignData, .metadata, .setTranslation, .token]

/-- The name of the model. -/
def model : CardTable → String
  | .card => "Card"
  | .set => "Set"
  | .legality => "Legality"
  | .ruling => "Ruling"
  | .foreignData => "ForeignData"
  | .metadata => "Meta"
  | .setTranslation => "SetTranslation"
  | .token => "Token"

/-- The name of the table. -/
def table : CardTable → String
  | .card => "cards"
  | .set => "sets"
  | .legality => "legalities"
  | .ruling => "rulings"
  | .foreignData => "foreign_data"
  | .metadata => "meta"
  | .setTranslation => "set_translations"
  | .token => "tokens"

/-- The card table with a table name.  Case matters. -/
def ofTable? (name : String) : Option CardTable :=
  all.find? fun entry => entry.table == name

/-- The card table with a model name.  Case matters. -/
def ofModel? (name : String) : Option CardTable :=
  all.find? fun entry => entry.model == name

theorem mem_all (entry : CardTable) : entry ∈ all := by
  cases entry <;> simp [all]

@[simp]
theorem ofTable?_table (entry : CardTable) : ofTable? entry.table = some entry := by
  cases entry <;> decide

@[simp]
theorem ofModel?_model (entry : CardTable) : ofModel? entry.model = some entry := by
  cases entry <;> decide

theorem ofTable?_eq_some_iff {name : String} {entry : CardTable} :
    ofTable? name = some entry ↔ name = entry.table := by
  constructor
  · intro found
    have := List.find?_some found
    exact (eq_of_beq this).symm
  · rintro rfl
    exact ofTable?_table entry

theorem ofModel?_eq_some_iff {name : String} {entry : CardTable} :
    ofModel? name = some entry ↔ name = entry.model := by
  constructor
  · intro found
    have := List.find?_some found
    exact (eq_of_beq this).symm
  · rintro rfl
    exact ofModel?_model entry

end CardTable

/-- One of the two databases. -/
inductive Side where
  | primary
  | secondary
deriving DecidableEq, Repr

namespace Side

/-- The word for a side. -/
def name : Side → String
  | .primary => "primary"
  | .secondary => "secondary"

/-- The side of an entity: primary exactly for the tables of the card
catalog. -/
def ofEntity (name : String) : Side :=
  if (CardTable.ofTable? name).isSome then .primary else .secondary

theorem ofEntity_eq_primary_iff {name : String} :
    ofEntity name = .primary ↔ ∃ entry : CardTable, name = entry.table := by
  simp [ofEntity, Option.isSome_iff_exists, CardTable.ofTable?_eq_some_iff]

end Side

/-- A table that can be queried. -/
structure Entity where
  name : String
  columns : List String
deriving DecidableEq, Repr, Inhabited

namespace Entity

/-- The database of the entity. -/
def side (entity : Entity) : Side :=
  Side.ofEntity entity.name

/-- The model of the card table with this name. -/
def model? (entity : Entity) : Option String :=
  (CardTable.ofTable? entity.name).map CardTable.model

end Entity

/-- The known entities in the byte order of their names. -/
structure Catalog where
  entities : List Entity
deriving DecidableEq, Repr, Inhabited

namespace Catalog

/-- A catalog without entities. -/
def empty : Catalog :=
  ⟨[]⟩

/-- Put an entity at its place in an ordered list, instead of one of the same
name. -/
def place (entity : Entity) : List Entity → List Entity
  | [] => [entity]
  | first :: rest =>
      match Text.compareText entity.name first.name with
      | .lt => entity :: first :: rest
      | .eq => entity :: rest
      | .gt => first :: place entity rest

/-- Put an entity at its place in an ordered list, and give back the one of the same
name that was there. -/
def exchangeIn (entity : Entity) : List Entity → Option Entity × List Entity
  | [] => (none, [entity])
  | first :: rest =>
      match Text.compareText entity.name first.name with
      | .lt => (none, entity :: first :: rest)
      | .eq => (some first, entity :: rest)
      | .gt => (exchangeIn entity rest).map id (first :: ·)

/-- The entity with exactly this name. -/
def find? (catalog : Catalog) (name : String) : Option Entity :=
  catalog.entities.find? fun entity => entity.name == name

/-- Add an entity, replacing one of the same name. -/
def insert (catalog : Catalog) (entity : Entity) : Catalog :=
  ⟨place entity catalog.entities⟩

/-- Add an entity, and give back the one that it replaces. -/
def exchange (catalog : Catalog) (entity : Entity) : Option Entity × Catalog :=
  (exchangeIn entity catalog.entities).map id Catalog.mk

/-- The entity with this name or, when there is none, the table of the model
with this name. -/
def get? (catalog : Catalog) (name : String) : Option Entity :=
  (catalog.find? name).or
    ((CardTable.ofModel? name).bind fun entry => catalog.find? entry.table)

/-- Whether a name or model is known. -/
def contains (catalog : Catalog) (name : String) : Bool :=
  (catalog.get? name).isSome

/-- The names in byte order. -/
def names (catalog : Catalog) : List String :=
  catalog.entities.map Entity.name

/-- The number of entities. -/
def size (catalog : Catalog) : Nat :=
  catalog.entities.length

end Catalog

end CardShell
