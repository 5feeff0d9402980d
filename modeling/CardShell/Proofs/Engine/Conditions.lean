import CardShell.Proofs.Session.Routing
import CardShell.Proofs.Sql.Filters

/-!
# How engines answer conditions

An engine answers single tests of columns in a way of its own: how values are compared
and converted before is its own affair.  What it makes of a whole condition follows from
its tests by three-valued logic, and a statement with a condition selects the rows of the
table, in storage order, on which the condition is true.  Opened database files do so.
-/

namespace CardShell

/-! ## Conditions on the columns of a table -/

namespace Sql.Condition

variable {κ μ ε : Type}

/-- What a condition says when its tests are answered. -/
def truth (test : Condition κ → Truth) : Condition κ → Truth
  | .not condition => (truth test condition).not
  | .and left right => Truth.and (truth test left) (truth test right)
  | .or left right => Truth.or (truth test left) (truth test right)
  | condition => test condition

/-- A conjunction is true when every part of it is. -/
theorem truth_foldl_and_eq_true_iff {test : Condition κ → Truth} {conditions : List (Condition κ)}
    {first : Condition κ} :
    (conditions.foldl .and first).truth test = some true ↔
      ∀ condition ∈ first :: conditions, condition.truth test = some true := by
  induction conditions generalizing first with
  | nil => simp
  | cons condition conditions later =>
      rw [List.foldl_cons, later, List.forall_mem_cons, truth, Truth.and_eq_true_iff]
      simp only [List.forall_mem_cons, and_assoc]

/-- The columns of a condition from left to right. -/
def columns : Condition κ → List κ
  | .compare column _ _ => [column]
  | .isNull column => [column]
  | .like column _ => [column]
  | .oneOf column _ => [column]
  | .between column _ _ => [column]
  | .not condition => columns condition
  | .and left right => columns left ++ columns right
  | .or left right => columns left ++ columns right

theorem columns_map (change : κ → μ) (condition : Condition κ) :
    (condition.map change).columns = condition.columns.map change := by
  induction condition with
  | not condition inner => exact inner
  | and left right first second => rw [map, columns, first, second, columns, List.map_append]
  | or left right first second => rw [map, columns, first, second, columns, List.map_append]
  | _ => rfl

theorem mem_columns_foldl_and {column : κ} {conditions : List (Condition κ)}
    {first : Condition κ} :
    column ∈ (conditions.foldl .and first).columns ↔
      ∃ condition ∈ first :: conditions, column ∈ condition.columns := by
  induction conditions generalizing first with
  | nil => simp
  | cons condition conditions later =>
      rw [List.foldl_cons, later]
      simp only [List.exists_mem_cons_iff, columns, List.mem_append, or_assoc]

/-- A condition of which every column is found resolves to the one on what is found. -/
theorem resolve_eq_map {find : κ → Except ε μ} {place : κ → μ} {condition : Condition κ}
    (found : ∀ column ∈ condition.columns, find column = .ok (place column)) :
    condition.resolve find = .ok (condition.map place) := by
  induction condition with
  | not condition inner =>
      rw [resolve, inner found]
      rfl
  | and left right first second =>
      rw [columns, List.forall_mem_append] at found
      rw [resolve, first found.1, second found.2]
      rfl
  | or left right first second =>
      rw [columns, List.forall_mem_append] at found
      rw [resolve, first found.1, second found.2]
      rfl
  | _ =>
      rw [columns, List.forall_mem_singleton] at found
      rw [resolve, found]
      rfl

/-- The table has all columns of a condition, under their names in small or capital
letters. -/
def Within (table : String) (names : List String) (condition : Condition ColumnName) : Prop :=
  ∀ column ∈ condition.columns, column.qualifier.all (Database.sameName table) = true ∧
    ∃ name ∈ names, Database.sameName name column.name = true

instance (table : String) (names : List String) (condition : Condition ColumnName) :
    Decidable (condition.Within table names) :=
  inferInstanceAs (Decidable (∀ column ∈ condition.columns, _))

/-- Where the columns of a condition stand does not decide whether a table has them. -/
theorem within_map_unplaced_iff {table : String} {names : List String}
    {condition : Condition ColumnName} :
    (condition.map ColumnName.unplaced).Within table names ↔ condition.Within table names := by
  rw [Within, columns_map, List.forall_mem_map]
  rfl

theorem within_foldl_and_iff {table : String} {names : List String}
    {conditions : List (Condition ColumnName)} {first : Condition ColumnName} :
    (conditions.foldl .and first).Within table names ↔
      ∀ condition ∈ first :: conditions, condition.Within table names := by
  simp only [Within, mem_columns_foldl_and]
  constructor
  · exact fun all condition member column among => all column ⟨condition, member, among⟩
  · rintro all column ⟨condition, member, among⟩
    exact all condition member column among

end Sql.Condition

/-! ## Engines -/

namespace Engine

/-- What an engine holds: the rows of its tables, and its answers to single tests. -/
structure Contents (δ : Type) where
  rows : δ → String → List (List Value)
  test : δ → String → List Value → Sql.Condition Sql.ColumnName → Sql.Truth

/-- Whether a condition is true of a row of a table. -/
def Contents.holds {δ : Type} (contents : Contents δ) (database : δ) (table : String)
    (condition : Sql.Condition Sql.ColumnName) (row : List Value) : Bool :=
  condition.truth (contents.test database table row) == some true

/-- The statement of a listed table selects all its rows, and with an expression of its
columns for a condition those on which the condition is true. -/
structure Evaluates {δ : Type} [Engine δ] (contents : Contents δ) : Prop where
  whole {database : δ} {items : List SchemaItem} {item : SchemaItem} :
    tables database = .ok items → item ∈ items →
      query database ("SELECT * FROM " ++ Text.quoteString item.name) =
        .ok ((contents.rows database item.name).map (Row.ofValues item.columns))
  filtered {database : δ} {items : List SchemaItem} {item : SchemaItem} {text : String}
      {condition : Sql.Condition Sql.ColumnName} :
    tables database = .ok items → item ∈ items →
    Sql.Expression .disjunction (Sql.lexemes text.toList) condition →
    condition.Within item.name item.columns →
      query database ("SELECT * FROM " ++ Text.quoteString item.name ++ " WHERE " ++ text) =
        .ok (((contents.rows database item.name).filter
          (contents.holds database item.name (condition.map Sql.ColumnName.unplaced))).map
            (Row.ofValues item.columns))

end Engine

/-! ## Databases in files -/

namespace Database

/-- The field that a column name means in a table that has it. -/
def Table.field (table : Table) (column : Sql.ColumnName) : Field :=
  let position := (table.columns.findIdx? fun candidate =>
    sameName candidate.name column.name).getD 0
  ⟨position, (table.columns[position]?.map Column.affinity).getD .none⟩

/-- A column that the table has is found, wherever it stands and whatever the
statement is. -/
theorem resolveColumn_eq_field {table : Table} (sql : String) {column : Sql.ColumnName}
    (mine : column.qualifier.all (sameName table.name) = true)
    (known : ∃ name ∈ table.columnNames, sameName name column.name = true) :
    resolveColumn table sql column = .ok (table.field column) := by
  have found : (table.columns.findIdx? fun candidate =>
      sameName candidate.name column.name).isSome = true := by
    rw [List.findIdx?_isSome, List.any_eq_true]
    rcases known with ⟨name, member, same⟩
    rcases List.mem_map.mp member with ⟨candidate, present, rfl⟩
    exact ⟨candidate, present, same⟩
  rcases Option.isSome_iff_exists.mp found with ⟨position, place⟩
  simp [Table.field, resolveColumn, mine, place]

/-- What a condition says of a row follows from what its tests say. -/
theorem truth_map {κ : Type} (row : List Value) (field : κ → Field)
    (condition : Sql.Condition κ) :
    truth row (condition.map field) = condition.truth fun test => truth row (test.map field) := by
  induction condition with
  | not condition inner => rw [Sql.Condition.map, truth, inner, Sql.Condition.truth]
  | and left right first second =>
      rw [Sql.Condition.map, truth, first, second, Sql.Condition.truth]
  | or left right first second =>
      rw [Sql.Condition.map, truth, first, second, Sql.Condition.truth]
  | _ => rfl

/-- A statement with a condition on the columns of a table selects the rows on which the
condition is true. -/
theorem run_filtered {database : Database} {table : Table} (member : table ∈ database.tables)
    {text : String} {condition : Sql.Condition Sql.ColumnName}
    (expression : Sql.Expression .disjunction (Sql.lexemes text.toList) condition)
    (within : condition.Within table.name table.columnNames) :
    database.run ("SELECT * FROM " ++ Text.quoteString table.name ++ " WHERE " ++ text) =
      .ok (table.columnNames,
        table.rows.filter fun row => truth row (condition.map table.field) == some true) := by
  have written : ("SELECT * FROM " ++ Text.quoteString table.name ++ " WHERE " ++ text).toList =
      "SELECT * FROM ".toList ++ Text.quoteName table.name.toList ++
        (" WHERE ".toList ++ text.toList) := by
    simp [Text.quoteString]
  generalize "SELECT * FROM " ++ Text.quoteString table.name ++ " WHERE " ++ text = sql
    at written ⊢
  obtain ⟨distance, read⟩ := Sql.read_filtered written expression
  have resolved : (condition.map (Sql.ColumnName.moved distance)).resolve
      (resolveColumn table sql) = .ok ((condition.map (Sql.ColumnName.moved distance)).map
        table.field) := by
    apply Sql.Condition.resolve_eq_map
    rw [Sql.Condition.columns_map, List.forall_mem_map]
    intro column among
    rcases within column among with ⟨mine, known⟩
    exact resolveColumn_eq_field sql mine known
  have places : table.field ∘ Sql.ColumnName.moved distance = table.field := rfl
  rw [Sql.Condition.map_map, places] at resolved
  have found : database.table? (String.ofList table.name.toList) = some table := by
    rw [String.ofList_toList]
    exact table?_of_mem member
  rw [run, read]
  simp only [bind, Except.bind, found, resolve, Option.mapM_some, resolved]
  rfl

end Database

namespace Handle

open Database (Table truth)

/-- The table of a name in an opened file. -/
def table? (handle : Handle) (name : String) : Option Table :=
  handle.content.toOption.bind fun database => database.table? name

/-- What an opened file holds. -/
def contents : Engine.Contents Handle where
  rows handle name := ((handle.table? name).map Table.rows).getD []
  test handle name row condition :=
    (handle.table? name).bind fun table => truth row (condition.map table.field)

/-- A listed table of an opened file is stored in it. -/
theorem exists_table_of_listed {handle : Handle} {items : List SchemaItem} {item : SchemaItem}
    (listed : Engine.tables handle = .ok items) (member : item ∈ items) :
    ∃ database table, handle = .database database ∧ table ∈ database.tables ∧
      table.name = item.name ∧ table.columnNames = item.columns ∧
      handle.table? item.name = some table := by
  cases handle with
  | unreadable => contradiction
  | database database =>
      cases listed
      obtain ⟨present, kind, -⟩ := Engine.mem_listed_iff.mp member
      obtain ⟨table, stored, named, columns⟩ :=
        Database.exists_table_of_mem_schemaItems present kind
      refine ⟨database, table, rfl, stored, named, columns, ?_⟩
      rw [← named]
      exact Database.table?_of_mem stored

/-- An opened file answers conditions by the rules. -/
theorem evaluates : Engine.Evaluates contents where
  whole := by
    intro handle items item listed member
    obtain ⟨database, table, rfl, stored, named, columns, found⟩ :=
      exists_table_of_listed listed member
    have all : (Selection.all ⟨item.name, item.columns⟩).sql =
        "SELECT * FROM " ++ Text.quoteString item.name := by
      rw [← String.toList_inj, Selection.toList_sql_all]
      simp [Text.quoteString]
    have run : database.run (Selection.all ⟨item.name, item.columns⟩).sql =
        .ok (table.columnNames, table.rows) :=
      Database.run_sql_all stored named.symm
    rw [← all, Database.query_of_run run, columns]
    simp only [contents, found, Option.map_some, Option.getD_some]
  filtered := by
    intro handle items item text condition listed member expression within
    obtain ⟨database, table, rfl, stored, named, columns, found⟩ :=
      exists_table_of_listed listed member
    rw [← named, ← columns] at within
    have run := Database.run_filtered stored expression within
    have answers : ∀ row, contents.holds (.database database) item.name
        (condition.map Sql.ColumnName.unplaced) row =
          (truth row (condition.map table.field) == some true) := by
      intro row
      have test : contents.test (.database database) item.name row =
          fun test => truth row (test.map table.field) := by
        simp only [contents, found, Option.bind_some]
      have places : table.field ∘ Sql.ColumnName.unplaced = table.field := rfl
      rw [Engine.Contents.holds, test, ← Database.truth_map, Sql.Condition.map_map, places]
    rw [← named, Database.query_of_run run, named, columns, funext answers]
    simp only [contents, found, Option.map_some, Option.getD_some]

end Handle

end CardShell
