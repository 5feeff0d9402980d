import CardShell.Proofs.Catalog.Order
import CardShell.Proofs.Sql.WholeTable
import CardShell.Session
import Mathlib

/-!
# Reflection and routing agree

An entity enters the catalog from the listed tables of one database, and its name
alone decides the database that a selection of it is bound to.  The two are the
same database, so every entity of a catalog can be queried there.
-/

namespace CardShell

/-! ## Listed tables -/

/-- What is listed are the tables of a schema whose names are not kept from
listings. -/
theorem Engine.mem_listed_iff {items : List SchemaItem} {item : SchemaItem} :
    item ∈ listed items ↔ item ∈ items ∧ item.kind = .table ∧ isInternal item.name = false := by
  rw [listed, List.mem_mergeSort, List.mem_filter]
  simp

namespace Databases

variable {δ : Type} [Engine δ] {databases : Databases δ}

omit [Engine δ] in
/-- A listed table becomes an entity exactly on the side that its name decides. -/
theorem mem_divide_iff {side : Side} {items : List SchemaItem} {entity : Entity} :
    entity ∈ (divide side items).2 ↔
      entity.side = side ∧
        ∃ item ∈ items, item.name = entity.name ∧ item.columns = entity.columns := by
  obtain ⟨name, columns⟩ := entity
  simp only [divide, List.mem_map, List.mem_filter, beq_iff_eq, Entity.side, Entity.mk.injEq]
  constructor
  · rintro ⟨item, ⟨member, belongs⟩, rfl, rfl⟩
    exact ⟨belongs, item, member, rfl, rfl⟩
  · rintro ⟨belongs, item, member, rfl, rfl⟩
    exact ⟨item, ⟨member, belongs⟩, rfl, rfl⟩

/-- What a database lends are its listed tables that belong on its side. -/
theorem result_lend (databases : Databases δ) (side : Side) :
    (databases.lend side).result =
      (Engine.tables (databases.on side)).map fun items => (divide side items).2 := by
  rw [lend]
  cases Engine.tables (databases.on side) <;> rfl

/-- The catalog is made of what the two databases lend. -/
theorem result_catalog (databases : Databases δ) :
    databases.catalog.result =
      (Engine.tables databases.primary).bind fun primary =>
        (Engine.tables databases.secondary).map fun secondary =>
          ((divide .primary primary).2 ++ (divide .secondary secondary).2).foldl
            Catalog.insert .empty := by
  have first : (databases.lend .primary).result =
      (Engine.tables databases.primary).map fun items => (divide .primary items).2 :=
    databases.result_lend .primary
  have second : (databases.lend .secondary).result =
      (Engine.tables databases.secondary).map fun items => (divide .secondary items).2 :=
    databases.result_lend .secondary
  rw [catalog, Noted.bind]
  cases primary : Engine.tables databases.primary with
  | error failure =>
      rw [primary] at first
      rw [first]
      rfl
  | ok items =>
      rw [primary] at first
      rw [first]
      simp only [Except.map, Noted.result_after, Noted.result_map, second]
      cases Engine.tables databases.secondary <;> rfl

theorem result_catalog_eq_ok_iff {catalog : Catalog} :
    databases.catalog.result = .ok catalog ↔
      ∃ primary secondary,
        Engine.tables databases.primary = .ok primary ∧
        Engine.tables databases.secondary = .ok secondary ∧
        catalog = ((divide .primary primary).2 ++ (divide .secondary secondary).2).foldl
          Catalog.insert .empty := by
  rw [result_catalog]
  cases Engine.tables databases.primary with
  | error failure => simp [Except.bind]
  | ok primary =>
      cases Engine.tables databases.secondary with
      | error failure => simp [Except.bind, Except.map]
      | ok secondary => simp [Except.bind, Except.map, eq_comm]

/-- The entities of a catalog are in order. -/
theorem ordered_catalog {catalog : Catalog} (reflected : databases.catalog.result = .ok catalog) :
    catalog.Ordered := by
  obtain ⟨primary, secondary, -, -, rfl⟩ := result_catalog_eq_ok_iff.mp reflected
  exact Catalog.ordered_empty.foldl_insert _

/-- Every entity of a catalog is a listed table of the database on its own
side. -/
theorem exists_listed_of_mem_catalog {catalog : Catalog}
    (reflected : databases.catalog.result = .ok catalog) {entity : Entity}
    (member : entity ∈ catalog.entities) :
    ∃ items, Engine.tables (databases.on entity.side) = .ok items ∧
      ∃ item ∈ items, item.name = entity.name ∧ item.columns = entity.columns := by
  obtain ⟨primary, secondary, first, second, rfl⟩ := result_catalog_eq_ok_iff.mp reflected
  rcases Catalog.mem_or_mem_of_mem_foldl_insert member with lent | held
  · rcases List.mem_append.mp lent with lent | lent
    · obtain ⟨side, listed⟩ := mem_divide_iff.mp lent
      exact ⟨primary, by rw [side]; exact first, listed⟩
    · obtain ⟨side, listed⟩ := mem_divide_iff.mp lent
      exact ⟨secondary, by rw [side]; exact second, listed⟩
  · contradiction

end Databases

/-! ## Stored tables -/

namespace Database

/-- The tables in a schema are the stored tables with their columns. -/
theorem exists_table_of_mem_schemaItems {database : Database} {item : SchemaItem}
    (member : item ∈ database.schemaItems) (kind : item.kind = .table) :
    ∃ table ∈ database.tables, table.name = item.name ∧ table.columnNames = item.columns := by
  rcases List.mem_append.mp member with stored | viewed
  · obtain ⟨table, present, rfl⟩ := List.mem_map.mp stored
    exact ⟨table, present, rfl, rfl⟩
  · obtain ⟨view, -, rfl⟩ := List.mem_map.mp viewed
    contradiction

/-- Rows of which none fails are all collected. -/
theorem collect_ok (columns : List String) (rows : List (List Value)) :
    Prepared.collect ⟨columns, rows.map Except.ok⟩ = .ok (rows.map (Row.ofValues columns)) := by
  induction rows with
  | nil => rfl
  | cons row rows later =>
      rw [Prepared.collect] at later ⊢
      rw [List.map_cons, List.mapM_cons, later]
      rfl

/-- The rows of a table, each with a value for every column. -/
def Table.resultRows (table : Table) : List Row :=
  table.rows.map (Row.ofValues table.columnNames)

/-- Rows that are complete keep their values. -/
theorem Table.map_values_resultRows {table : Table}
    (complete : ∀ row ∈ table.rows, row.length = table.columns.length) :
    table.resultRows.map Row.values = table.rows := by
  have kept : ∀ row ∈ table.rows, (Row.values ∘ Row.ofValues table.columnNames) row = id row := by
    intro row member
    have same : row.length = table.columnNames.length := by
      rw [complete row member, columnNames, List.length_map]
    rw [Function.comp_apply, Row.ofValues_of_length_eq same]
    rfl
  rw [resultRows, List.map_map, List.map_congr_left kept, List.map_id]

/-- A session gets the rows of a statement as they are run. -/
theorem query_of_run {database : Database} {sql : String} {columns : List String}
    {rows : List (List Value)} (result : database.run sql = .ok (columns, rows)) :
    Engine.query (Handle.database database) sql = .ok (rows.map (Row.ofValues columns)) := by
  have ready : Engine.prepare (Handle.database database) sql =
      .ok ⟨columns, rows.map Except.ok⟩ := by
    change database.prepared sql = _
    rw [prepared, result]
    rfl
  rw [Engine.query, ready]
  exact collect_ok columns rows

theorem tables_handle (database : Database) :
    Engine.tables (Handle.database database) = .ok (Engine.listed database.schemaItems) :=
  rfl

end Database

namespace Databases

/-- Two databases in opened files. -/
def opened (contents : Databases Database) : Databases Handle :=
  ⟨.database contents.primary, .database contents.secondary⟩

theorem on_opened (contents : Databases Database) (side : Side) :
    contents.opened.on side = .database (contents.on side) := by
  cases side <;> rfl

/-- Readable databases always have a catalog. -/
theorem exists_catalog_opened (contents : Databases Database) :
    ∃ catalog, contents.opened.catalog.result = .ok catalog :=
  ⟨_, result_catalog_eq_ok_iff.mpr
    ⟨_, _, contents.primary.tables_handle, contents.secondary.tables_handle, rfl⟩⟩

/-- Every entity in the catalog of two databases is a listed table, with its
columns in order, of the database that a selection of it is bound to.  That is the
primary database exactly for the tables of the card catalog, and selecting the
entity there yields all its rows in storage order. -/
theorem catalog_agrees_with_binding (contents : Databases Database) :
    ∃ catalog, contents.opened.catalog.result = .ok catalog ∧
      ∀ entity ∈ catalog.entities,
        (entity.side = .primary ↔ ∃ entry : CardTable, entity.name = entry.table) ∧
        ∃ table ∈ (contents.on entity.side).tables,
          table.name = entity.name ∧ table.columnNames = entity.columns ∧
          (∃ items, Engine.tables (contents.opened.on entity.side) = .ok items ∧
            ⟨.table, entity.name, entity.columns⟩ ∈ items) ∧
          ∃ selection, catalog.select entity.name [] = .ok selection ∧
            (contents.opened.bind selection).side = entity.side ∧
            (contents.opened.bind selection).database =
              contents.opened.on (contents.opened.bind selection).side ∧
            (contents.opened.bind selection).execute = .ok table.resultRows ∧
            ((∀ row ∈ table.rows, row.length = table.columns.length) →
              table.resultRows.map Row.values = table.rows) := by
  obtain ⟨catalog, reflected⟩ := contents.exists_catalog_opened
  refine ⟨catalog, reflected, ?_⟩
  intro entity member
  obtain ⟨items, listed, item, present, named, columns⟩ :=
    exists_listed_of_mem_catalog reflected member
  have tables := listed
  rw [on_opened, Database.tables_handle] at tables
  obtain ⟨stored, kind, -⟩ := Engine.mem_listed_iff.mp (Except.ok.inj tables ▸ present)
  obtain ⟨table, inside, sameName, sameColumns⟩ :=
    Database.exists_table_of_mem_schemaItems stored kind
  have whole : item = ⟨.table, entity.name, entity.columns⟩ := by
    rw [← named, ← columns, ← kind]
  have selected : catalog.select entity.name [] = .ok (Selection.all entity) := by
    rw [Catalog.select, (ordered_catalog reflected).get?_of_mem member]
    rfl
  have executed : (contents.opened.bind (Selection.all entity)).execute = .ok table.resultRows := by
    change Engine.query (contents.opened.on entity.side) (Selection.all entity).sql = _
    rw [on_opened]
    exact Database.query_of_run (Database.run_sql_all inside (named ▸ sameName.symm))
  exact ⟨Side.ofEntity_eq_primary_iff, table, inside, sameName.trans named,
    sameColumns.trans columns, ⟨items, listed, whole ▸ present⟩, Selection.all entity, selected,
    rfl, rfl, executed, Database.Table.map_values_resultRows⟩

/-- With tables of the same names on both sides, copies are those of the secondary
database. -/
theorem copies_of_same_names :
    let contents : Databases Database :=
      ⟨.ofTables
          [⟨"copies", [⟨"id", .integer⟩], [[.integer 1]]⟩,
            ⟨"cards", [⟨"name", .text⟩], [[.text "Ornithopter"]]⟩]
          [⟨"sets"⟩],
        .ofTables
          [⟨"cards", [⟨"id", .integer⟩], []⟩,
            ⟨"copies", [⟨"id", .integer⟩, ⟨"note", .text⟩],
              [[.integer 7, .text "signed"], [.integer 3, .null]]⟩]
          []⟩
    ∃ catalog, contents.opened.catalog.result = .ok catalog ∧
      ⟨"copies", ["id", "note"]⟩ ∈ catalog.entities ∧
      ∃ table ∈ contents.secondary.tables, table.name = "copies" ∧
        (∀ row ∈ table.rows, row.length = table.columns.length) ∧
        ∃ selection, catalog.select "copies" [] = .ok selection ∧
          (contents.opened.bind selection).side = .secondary ∧
          (contents.opened.bind selection).execute = .ok table.resultRows ∧
          table.resultRows.map Row.values = table.rows := by
  intro contents
  have known : contents.opened.catalog.result.toOption =
      some ⟨[⟨"cards", ["name"]⟩, ⟨"copies", ["id", "note"]⟩]⟩ := by
    cbv
  have complete : ∀ table ∈ contents.secondary.tables, ∀ row ∈ table.rows,
      row.length = table.columns.length := by
    decide
  obtain ⟨catalog, reflected, entities⟩ := catalog_agrees_with_binding contents
  rw [reflected] at known
  have member : ⟨"copies", ["id", "note"]⟩ ∈ catalog.entities := by
    rw [Option.some.inj known]
    decide
  obtain ⟨-, table, inside, named, -, -, selection, selected, side, -, executed, values⟩ :=
    entities _ member
  exact ⟨catalog, reflected, member, table, inside, named, complete table inside, selection,
    selected, side, executed, values (complete table inside)⟩

end Databases

end CardShell
