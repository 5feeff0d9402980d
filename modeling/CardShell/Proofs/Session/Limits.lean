import CardShell.Proofs.Selection.Limits
import CardShell.Proofs.Session.Filtering

/-!
# Limits on an entity

The last limit among the clauses of a selection cuts the rows that the other clauses
yield, wherever it stands among them and whatever limits stand in front of it.  That
holds as long as every other clause is one whole part of the statement: a condition, a
column or a term of the order.
-/

namespace CardShell

/-! ## Whole clauses -/

namespace Clause

/-- A clause that is one whole part of a statement on a table: a filter is an expression
behind the quoted name of the table, a grouping a column and an ordering one term. -/
inductive Whole (table : String) : Clause → Prop
  | filter {condition : String} {expression : Sql.Condition Sql.ColumnName} :
      Sql.Expression .disjunction
        (Sql.lexemes (Selection.qualified table condition).toList) expression →
      Whole table (.filter condition)
  | limit {count : Nat} : Whole table (.limit count)
  | groupBy {terms : String} {column : Sql.ColumnName} :
      Sql.SpellsColumn (Sql.lexemes terms.toList) column → Whole table (.groupBy terms)
  | orderBy {terms : String} {term : Sql.OrderTerm Sql.ColumnName} :
      Sql.SpellsOrderTerm (Sql.lexemes terms.toList) term → Whole table (.orderBy terms)

namespace Whole

variable {table : String} {clause : Clause}

theorem condition (whole : clause.Whole table) {condition : String}
    (filter : clause.condition? = some condition) :
    ∃ meaning, Selection.Means table condition meaning := by
  cases whole with
  | filter expression =>
      cases filter
      exact ⟨_, _, expression, rfl⟩
  | _ => cases filter

theorem grouping (whole : clause.Whole table) {terms : String}
    (groupBy : clause.grouping? = some terms) : Sql.IsColumn (Sql.lexemes terms.toList) := by
  cases whole with
  | groupBy column =>
      cases groupBy
      exact ⟨_, column⟩
  | _ => cases groupBy

theorem ordering (whole : clause.Whole table) {terms : String}
    (orderBy : clause.ordering? = some terms) : Sql.IsOrderTerm (Sql.lexemes terms.toList) := by
  cases whole with
  | orderBy term =>
      cases orderBy
      exact ⟨_, term⟩
  | _ => cases orderBy

end Whole

/-- The clauses that are no limits. -/
def withoutLimits (clauses : List Clause) : List Clause :=
  clauses.filter fun clause => clause.count?.isNone

theorem filterMap_withoutLimits {α : Type} {part : Clause → Option α}
    (other : ∀ count, part (.limit count) = none) (clauses : List Clause) :
    (withoutLimits clauses).filterMap part = clauses.filterMap part := by
  rw [withoutLimits, List.filterMap_filter]
  apply List.filterMap_congr
  intro clause _
  cases clause <;> simp [count?, other]

theorem lastLimit?_withoutLimits (clauses : List Clause) :
    lastLimit? (withoutLimits clauses) = none := by
  have none : (withoutLimits clauses).filterMap count? = [] := by
    rw [List.filterMap_eq_nil_iff]
    intro clause member
    exact Option.isNone_iff_eq_none.mp (List.mem_filter.mp member).2
  rw [lastLimit?, none, List.getLast?_nil]

end Clause

namespace Selection

/-- Leaving the limits out changes the limit only. -/
theorem ofClauses_withoutLimits (entity : Entity) (clauses : List Clause) :
    ofClauses entity (Clause.withoutLimits clauses) =
      { ofClauses entity clauses with limit := none } := by
  simp only [ofClauses, Clause.lastLimit?_withoutLimits]
  rw [Clause.filterMap_withoutLimits fun _ => rfl, Clause.filterMap_withoutLimits fun _ => rfl,
    Clause.filterMap_withoutLimits fun _ => rfl]

/-- Whole filters are joined to a whole condition. -/
theorem isCondition_filters {entity : Entity} {clauses : List Clause}
    (whole : ∀ clause ∈ clauses, clause.Whole entity.name)
    (notNil : clauses.filterMap Clause.condition? ≠ []) :
    Sql.IsCondition (Sql.lexemes (String.intercalate " AND "
      ((clauses.filterMap Clause.condition?).map (filterSql entity.name))).toList) := by
  have meant : ∀ condition ∈ clauses.filterMap Clause.condition?,
      ∃ meaning, Means entity.name condition meaning := by
    intro condition member
    rcases List.mem_filterMap.mp member with ⟨clause, found, filter⟩
    exact (whole clause found).condition filter
  have : Nonempty (Sql.Condition Sql.ColumnName) := ⟨.isNull ⟨none, "", 0⟩⟩
  choose! meaning means using meant
  cases filters : clauses.filterMap Clause.condition? with
  | nil => contradiction
  | cons filter filters =>
      rw [filters] at means
      rcases exists_expression_filters means with ⟨condition, expression, -⟩
      exact ⟨condition, expression⟩

/-- Whole clauses without their limits make a statement behind which a limit may stand. -/
theorem unlimited_withoutLimits {entity : Entity} {clauses : List Clause}
    (whole : ∀ clause ∈ clauses, clause.Whole entity.name) :
    Sql.Unlimited ({ ofClauses entity clauses with limit := none } : Selection).sql := by
  have columns : ∀ terms ∈ clauses.filterMap Clause.grouping?,
      Sql.IsColumn (Sql.lexemes terms.toList) := by
    intro terms member
    rcases List.mem_filterMap.mp member with ⟨clause, found, groupBy⟩
    exact (whole clause found).grouping groupBy
  have terms : ∀ terms ∈ clauses.filterMap Clause.ordering?,
      Sql.IsOrderTerm (Sql.lexemes terms.toList) := by
    intro terms member
    rcases List.mem_filterMap.mp member with ⟨clause, found, orderBy⟩
    exact (whole clause found).ordering orderBy
  exact spells_sql Sql.kind_condition Sql.kind_column.separated Sql.kind_orderTerm.separated rfl
    (isCondition_filters whole)
    (fun notNil => Sql.separated_intercalate Sql.kind_column notNil columns)
    (fun notNil => Sql.separated_intercalate Sql.kind_orderTerm notNil terms)

end Selection

/-! ## Engines -/

/-- A limit behind a statement that has none selects the first of its rows. -/
def Engine.CutsAtLimit (δ : Type) [Engine δ] : Prop :=
  ∀ (database : δ) (sql : String), Sql.Unlimited sql →
    ∀ rows, Engine.query database sql = .ok rows →
      ∀ count : Nat, count ≤ Text.maxInt64 →
        Engine.query database (sql ++ " LIMIT " ++ Text.ofNat count) = .ok (rows.take count)

namespace Database

/-- What a session gets of a database in a file is what the database yields. -/
theorem query_eq_ok_iff {database : Database} {sql : String} {rows : List Row} :
    Engine.query (Handle.database database) sql = .ok rows ↔
      ∃ columns values, database.run sql = .ok (columns, values) ∧
        values.map (Row.ofValues columns) = rows := by
  constructor
  · intro ok
    rcases Except.bind_eq_ok_iff.mp ok with ⟨ready, prepared, -⟩
    rcases Except.map_eq_ok_iff.mp prepared with ⟨⟨columns, values⟩, ran, -⟩
    rw [query_of_run ran] at ok
    exact ⟨columns, values, ran, Except.ok.inj ok⟩
  · rintro ⟨columns, values, ran, rfl⟩
    exact query_of_run ran

end Database

/-- Opened files cut at limits. -/
theorem Handle.cutsAtLimit : Engine.CutsAtLimit Handle := by
  intro handle sql unlimited rows ok count fits
  cases handle with
  | unreadable => contradiction
  | database database =>
      rcases Database.query_eq_ok_iff.mp ok with ⟨columns, values, ran, rfl⟩
      rcases Database.run_eq_ok_iff.mp ran with ⟨statement, -, -, read, -⟩
      have none := unlimited.limitFree.limit_eq_none read
      have limited := (Database.run_limit_iff fits).mpr ⟨statement, values, read, none, ran, rfl⟩
      rw [← List.map_take]
      exact Database.query_of_run limited

/-! ## The rows under a limit -/

namespace Databases

/-- The rows that clauses ask for under the name of an entity. -/
def rowsUnder {δ : Type} [Engine δ] (databases : Databases δ) (catalog : Catalog) (name : String)
    (clauses : List Clause) : Except Failure (List Row) := do
  let selection ← catalog.select name clauses
  (databases.bind selection).execute.mapError .storage

/-- The rows under clauses are those of one query of the database on the side of the
entity. -/
theorem rowsUnder_eq {δ : Type} [Engine δ] {databases : Databases δ} {catalog : Catalog}
    {name : String} {entity : Entity} (known : catalog.get? name = some entity)
    (clauses : List Clause) :
    databases.rowsUnder catalog name clauses =
      (Engine.query (databases.on entity.side) (Selection.ofClauses entity clauses).sql).mapError
        .storage := by
  rw [rowsUnder, Catalog.select_of_get? known]
  rfl

/-- On an engine that cuts at limits, clauses that are whole parts of a statement and yield
rows without their limits yield the first ones of these rows with them: as many as the last
limit allows, wherever it stands among the clauses, and all of them when there is none. -/
theorem last_limit_caps_rows {δ : Type} [Engine δ] (cuts : Engine.CutsAtLimit δ)
    {databases : Databases δ} {catalog : Catalog} {name : String} {entity : Entity}
    (known : catalog.get? name = some entity) {clauses : List Clause}
    (whole : ∀ clause ∈ clauses, clause.Whole entity.name) {all : List Row}
    (yields : databases.rowsUnder catalog name (Clause.withoutLimits clauses) = .ok all) :
    (∀ count, Clause.lastLimit? clauses = some count → count ≤ Text.maxInt64 →
      databases.rowsUnder catalog name clauses = .ok (all.take count)) ∧
    (Clause.lastLimit? clauses = none → databases.rowsUnder catalog name clauses = .ok all) := by
  rw [rowsUnder_eq known, Selection.ofClauses_withoutLimits, Except.mapError_eq_ok_iff] at yields
  rw [rowsUnder_eq known]
  constructor
  · intro count last fits
    have limited : (Selection.ofClauses entity clauses).limit = some count := last
    have cut := cuts _ _ (Selection.unlimited_withoutLimits whole) all yields count fits
    rw [Selection.sql_of_limit limited, cut]
    rfl
  · intro last
    have unlimited : { Selection.ofClauses entity clauses with limit := none } =
        Selection.ofClauses entity clauses := by
      rw [Selection.ofClauses, last]
    rw [← unlimited, yields]
    rfl

/-- A limit in front of the others does not count, and the last one stands in front of the
order that it cuts. -/
theorem last_limit_in_front_of_order :
    let table : Database.Table :=
      ⟨"cards", [⟨"name", .text⟩, ⟨"power", .integer⟩, ⟨"setCode", .text⟩],
        [[.text "Craw Wurm", .integer 6, .text "LEA"],
          [.text "Llanowar Elves", .integer 1, .text "LEB"],
          [.text "Mishra", .integer 4, .text "ATQ"],
          [.text "Shivan Dragon", .integer 5, .text "LEB"]]⟩
    let contents : Databases Database := ⟨.ofTables [table] [], .empty⟩
    let clauses : List Clause :=
      [.limit 1, .filter "power > 1", .groupBy "setCode", .limit 2, .orderBy "power desc"]
    (∀ clause ∈ clauses, clause.Whole "cards") ∧
      ∃ catalog, contents.opened.catalog.result = .ok catalog ∧
        contents.opened.rowsUnder catalog "Card" clauses =
          .ok ([[.text "Craw Wurm", .integer 6, .text "LEA"],
            [.text "Shivan Dragon", .integer 5, .text "LEB"]].map
              (Row.ofValues ["name", "power", "setCode"])) := by
  intro table contents clauses
  have condition : Sql.Expression .disjunction
      (Sql.lexemes (Selection.qualified "cards" "power > 1").toList)
      (.compare ⟨some "cards", "power", 0⟩ .greater (.integer 1)) :=
    Sql.expression_iff_read?.mpr (by decide +kernel)
  have column : Sql.SpellsColumn (Sql.lexemes "setCode".toList) ⟨none, "setCode", 0⟩ := by
    have cut : Sql.lexemes "setCode".toList = [⟨.word "setCode", "setCode", 0⟩] := by
      rfl
    exact cut ▸ .bare (by decide +kernel)
  have term : Sql.SpellsOrderTerm (Sql.lexemes "power desc".toList)
      ⟨⟨none, "power", 0⟩, true⟩ := by
    have cut : Sql.lexemes "power desc".toList =
        [⟨.word "power", "power", 0⟩] ++ [⟨.word "desc", "desc", 6⟩] := by
      rfl
    exact cut ▸ .descending (.bare (by decide +kernel)) (by decide +kernel)
  have whole : ∀ clause ∈ clauses, clause.Whole "cards" := by
    simp only [clauses, List.forall_mem_cons]
    exact ⟨.limit, .filter condition, .groupBy column, .limit, .orderBy term, nofun⟩
  have listed : contents.opened.catalog.result.toOption =
      some ⟨[⟨"cards", ["name", "power", "setCode"]⟩]⟩ := by
    cbv
  obtain ⟨catalog, reflected⟩ := contents.exists_catalog_opened
  have only : catalog = ⟨[⟨"cards", ["name", "power", "setCode"]⟩]⟩ :=
    Option.some.inj ((congrArg Except.toOption reflected).symm.trans listed)
  subst only
  have known : Catalog.get? ⟨[⟨"cards", ["name", "power", "setCode"]⟩]⟩ "Card" =
      some ⟨"cards", ["name", "power", "setCode"]⟩ := by
    decide
  have selected : Database.select
      ⟨"cards", 14, some (.compare ⟨1, .integer⟩ .greater (.integer 1)), [⟨2, .text⟩],
        [⟨⟨1, .integer⟩, true⟩], none⟩ table.rows =
      [[.text "Craw Wurm", .integer 6, .text "LEA"],
        [.text "Shivan Dragon", .integer 5, .text "LEB"],
        [.text "Mishra", .integer 4, .text "ATQ"]] := by
    cbv
  have run : (contents.on .primary).run
      (Selection.ofClauses ⟨"cards", ["name", "power", "setCode"]⟩
        (Clause.withoutLimits clauses)).sql = .ok (["name", "power", "setCode"], _) :=
    Database.run_eq_ok_iff.mpr
      ⟨⟨"cards", 14, some (.compare ⟨some "cards", "power", 29⟩ .greater (.integer 1)),
        [⟨none, "setCode", 57⟩], [⟨⟨none, "power", 74⟩, true⟩], none⟩, table, _,
        by decide +kernel, rfl, by decide +kernel, rfl, rfl, selected⟩
  have yields : contents.opened.rowsUnder ⟨[⟨"cards", ["name", "power", "setCode"]⟩]⟩ "Card"
      (Clause.withoutLimits clauses) =
        .ok ([[.text "Craw Wurm", .integer 6, .text "LEA"],
          [.text "Shivan Dragon", .integer 5, .text "LEB"],
          [.text "Mishra", .integer 4, .text "ATQ"]].map
            (Row.ofValues ["name", "power", "setCode"])) := by
    rw [rowsUnder_eq known, Except.mapError_eq_ok_iff]
    exact Database.query_of_run run
  refine ⟨whole, _, reflected, ?_⟩
  exact (last_limit_caps_rows Handle.cutsAtLimit known whole yields).1 2 (by decide) (by decide)

end Databases

end CardShell
