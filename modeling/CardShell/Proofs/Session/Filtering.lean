import CardShell.Proofs.Engine.Conditions
import CardShell.Proofs.Outcome

/-!
# Filters on an entity

The filters of a selection decide together which rows of the entity's table it
yields: those on which all that they ask for is true.  A test that is undecided
because of a null is not true, and connectives inside a filter do not reach beyond
it.
-/

namespace CardShell

/-! ## Rows that satisfy conditions -/

namespace Engine.Contents

variable {δ : Type} {contents : Contents δ} {database : δ} {entity : Entity}
  {conditions others : List (Sql.Condition Sql.ColumnName)}

/-- The rows of the table of an entity, in storage order, on which all of some conditions
are true. -/
def satisfying (contents : Contents δ) (database : δ) (entity : Entity)
    (conditions : List (Sql.Condition Sql.ColumnName)) : List Row :=
  ((contents.rows database entity.name).filter fun row =>
    conditions.all fun condition => contents.holds database entity.name condition row).map
      (Row.ofValues entity.columns)

/-- The order and the number of times in which conditions are listed do not
matter. -/
theorem satisfying_congr (same : ∀ condition, condition ∈ conditions ↔ condition ∈ others) :
    contents.satisfying database entity conditions =
      contents.satisfying database entity others := by
  rw [satisfying, satisfying]
  congr 1
  apply List.filter_congr
  intro row _
  rw [Bool.eq_iff_iff, List.all_eq_true, List.all_eq_true]
  exact forall_congr' fun condition => by rw [same]

/-- Among more conditions fewer rows remain, in the same order. -/
theorem satisfying_sublist (fewer : conditions ⊆ others) :
    (contents.satisfying database entity others).Sublist
      (contents.satisfying database entity conditions) := by
  apply List.Sublist.map
  apply List.monotone_filter_right
  intro row all
  rw [List.all_eq_true] at all ⊢
  exact fun condition member => all condition (fewer member)

theorem satisfying_nil :
    contents.satisfying database entity [] =
      (contents.rows database entity.name).map (Row.ofValues entity.columns) := by
  simp [satisfying]

/-- A conjunction is true of the rows of which all its parts are. -/
theorem filter_holds_foldl_and (first : Sql.Condition Sql.ColumnName) :
    ((contents.rows database entity.name).filter
        (contents.holds database entity.name (conditions.foldl .and first))).map
      (Row.ofValues entity.columns) =
        contents.satisfying database entity (first :: conditions) := by
  rw [satisfying]
  congr 1
  apply List.filter_congr
  intro row _
  rw [Bool.eq_iff_iff, holds, beq_iff_eq, Sql.Condition.truth_foldl_and_eq_true_iff,
    List.all_eq_true]
  simp only [holds, beq_iff_eq]

end Engine.Contents

/-! ## The statement of filters -/

namespace Selection

theorem sql_all (entity : Entity) :
    (all entity).sql = "SELECT * FROM " ++ Text.quoteString entity.name := by
  have plain : (all entity).sql =
      "SELECT * FROM " ++ Text.quoteString entity.name ++ "" ++ "" ++ "" ++ "" :=
    rfl
  rw [plain, String.append_empty, String.append_empty, String.append_empty, String.append_empty]

theorem sql_filters (entity : Entity) (filter : String) (filters : List String) :
    ({ all entity with filters := filter :: filters } : Selection).sql =
      "SELECT * FROM " ++ Text.quoteString entity.name ++ " WHERE " ++
        String.intercalate " AND " ((filter :: filters).map (filterSql entity.name)) := by
  have plain : ({ all entity with filters := filter :: filters } : Selection).sql =
      "SELECT * FROM " ++ Text.quoteString entity.name ++
        (" WHERE " ++
          String.intercalate " AND " ((filter :: filters).map (filterSql entity.name))) ++
        "" ++ "" ++ "" :=
    rfl
  rw [plain, String.append_empty, String.append_empty, String.append_empty, String.append_assoc,
    String.append_assoc, String.append_assoc]

end Selection

/-- An engine selects the rows of a listed table on which everything is true that filters
ask for. -/
theorem Engine.Evaluates.query_filters {δ : Type} [Engine δ] {contents : Engine.Contents δ}
    (evaluates : Engine.Evaluates contents) {database : δ} {items : List SchemaItem}
    (listed : Engine.tables database = .ok items) {entity : Entity}
    (member : ⟨.table, entity.name, entity.columns⟩ ∈ items) {filters : List String}
    {meaning : String → Sql.Condition Sql.ColumnName}
    (means : ∀ filter ∈ filters, Selection.Means entity.name filter (meaning filter))
    (within : ∀ filter ∈ filters, (meaning filter).Within entity.name entity.columns) :
    Engine.query database ({ Selection.all entity with filters } : Selection).sql =
      .ok (contents.satisfying database entity (filters.map meaning)) := by
  cases filters with
  | nil =>
      have whole := evaluates.whole listed member
      rw [List.map_nil, Engine.Contents.satisfying_nil]
      exact (Selection.sql_all entity).symm ▸ whole
  | cons filter filters =>
      obtain ⟨condition, expression, same⟩ := Selection.exists_expression_filters means
      have known : condition.Within entity.name entity.columns := by
        rw [← Sql.Condition.within_map_unplaced_iff, same, Sql.Condition.within_foldl_and_iff,
          ← List.map_cons, List.forall_mem_map]
        exact within
      rw [Selection.sql_filters, evaluates.filtered listed member expression known, same,
        List.map_cons, ← Engine.Contents.filter_holds_foldl_and]

namespace Databases

variable {δ : Type} [Engine δ]

/-- The rows of an entity under filters. -/
def filtered (databases : Databases δ) (catalog : Catalog) (name : String)
    (filters : List String) : Except Failure (List Row) := do
  let selection ← catalog.select name (filters.map .filter)
  (databases.bind selection).execute.mapError .storage

/-- A selection with filters is one query of the database on the side of its entity. -/
theorem filtered_eq {databases : Databases δ} {catalog : Catalog} {name : String}
    {entity : Entity} (known : catalog.get? name = some entity) (filters : List String) :
    databases.filtered catalog name filters =
      (Engine.query (databases.on entity.side)
        ({ Selection.all entity with filters } : Selection).sql).mapError .storage := by
  have selected : catalog.select name (filters.map .filter) =
      .ok { Selection.all entity with filters } := by
    rw [Catalog.select, known]
    change Except.ok ((Selection.all entity).addAll _) = _
    rw [Selection.addAll_filter]
    rfl
  rw [filtered, selected]
  rfl

/-- Every entity of a catalog is a listed table of the database on its own side. -/
theorem exists_listing {databases : Databases δ} {catalog : Catalog}
    (reflected : databases.catalog.result = .ok catalog) {entity : Entity}
    (member : entity ∈ catalog.entities) :
    ∃ items, Engine.tables (databases.on entity.side) = .ok items ∧
      ⟨.table, entity.name, entity.columns⟩ ∈ items := by
  obtain ⟨items, listed, item, present, named, columns⟩ :=
    exists_listed_of_mem_catalog reflected member
  obtain ⟨schema, -, rfl⟩ := Except.map_eq_ok_iff.mp listed
  obtain ⟨-, kind, -⟩ := Engine.mem_listed_iff.mp present
  have whole : item = ⟨.table, entity.name, entity.columns⟩ := by
    rw [← named, ← columns, ← kind]
  exact ⟨_, listed, whole ▸ present⟩

end Databases

end CardShell
