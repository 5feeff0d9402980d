import CardShell.Proofs.Outcome
import CardShell.Proofs.Sql.Lexing

/-!
# The table of a statement

Once the name of the table has been read, nothing behind it in the statement changes it.
The name that a selection writes is quoted, and no part of the statement continues a
quoted name, so whatever the clauses of a selection are, its statement is either refused
or names the table of its entity, and its rows come with the columns of that table.
-/

namespace CardShell.Sql

/-! ## Behind the name of the table -/

/-- Whether the name of the table has been read. -/
def Phase.isNamed : Phase → Bool
  | .select | .star | .source | .table => false
  | _ => true

namespace Reader

/-- The name of the table has been read, and it is this one. -/
structure Names (reader : Reader) (name : String) : Prop where
  read : reader.phase.isNamed = true
  table : reader.statement.table = name

variable {reader next : Reader} {name : String}

theorem Names.goTo (names : reader.Names name) {phase : Phase} (later : phase.isNamed = true) :
    (reader.goTo phase).Names name :=
  ⟨later, names.table⟩

theorem Names.addGrouping (names : reader.Names name) (column : ColumnName) :
    (reader.addGrouping column).Names name :=
  ⟨names.read, names.table⟩

theorem Names.addOrdering (names : reader.Names name) (column : ColumnName) (descending : Bool) :
    (reader.addOrdering column descending).Names name :=
  ⟨names.read, names.table⟩

theorem Names.nextPart? (names : reader.Names name) {parts : List Keyword} {token : Token}
    (begun : reader.nextPart? parts token = some next) : next.Names name := by
  rw [Reader.nextPart?] at begun
  split at begun
  · split at begun
    · split at begun
      all_goals cases begun
      all_goals exact names.goTo rfl
    · cases begun
  · cases begun

/-- No lexeme behind the name of the table changes it. -/
theorem Names.step? (names : reader.Names name) {lexeme : Lexeme}
    (stepped : reader.step? lexeme = some next) : next.Names name := by
  obtain ⟨phase, statement⟩ := reader
  have expected {keyword : Keyword} {phase later : Phase} (named : later.isNamed = true)
      (found : (if lexeme.token.keyword? = some keyword then
        some (Reader.goTo ⟨phase, statement⟩ later) else none) = some next) :
      next.Names name := by
    split at found
    · cases found
      exact ⟨named, names.table⟩
    · cases found
  have column {make : String → Phase} (named : ∀ word, (make word).isNamed = true)
      (found : (lexeme.token.name?.map fun word => Reader.goTo ⟨phase, statement⟩ (make word)) =
        some next) : next.Names name := by
    obtain ⟨word, -, rfl⟩ := Option.map_eq_some_iff.mp found
    exact ⟨named word, names.table⟩
  cases phase with
  | select => exact absurd names.read Bool.false_ne_true
  | star => exact absurd names.read Bool.false_ne_true
  | source => exact absurd names.read Bool.false_ne_true
  | table => exact absurd names.read Bool.false_ne_true
  | clause => exact names.nextPart? stepped
  | condition pending =>
      simp only [Reader.step?] at stepped
      split at stepped
      · cases stepped
        exact names.goTo rfl
      · obtain ⟨condition, -, begun⟩ := Option.bind_eq_some_iff.mp stepped
        have kept :
            Names ⟨.condition pending, { statement with condition := some condition }⟩ name :=
          ⟨rfl, names.table⟩
        exact kept.nextPart? begun
  | groupBy => exact expected rfl stepped
  | groupTerm => exact column (fun _ => rfl) stepped
  | groupQualified qualifier offset => exact column (fun _ => rfl) stepped
  | groupEnd term =>
      simp only [Reader.step?] at stepped
      split at stepped
      · cases stepped
        exact names.goTo rfl
      · cases stepped
        exact (names.addGrouping term).goTo rfl
      · exact (names.addGrouping term).nextPart? stepped
  | orderBy => exact expected rfl stepped
  | orderTerm => exact column (fun _ => rfl) stepped
  | orderQualified qualifier offset => exact column (fun _ => rfl) stepped
  | orderEnd term =>
      simp only [Reader.step?] at stepped
      split at stepped
      · cases stepped
        exact names.goTo rfl
      · cases stepped
        exact (names.addOrdering term false).goTo rfl
      · cases stepped
        exact (names.addOrdering term false).goTo rfl
      · cases stepped
        exact (names.addOrdering term true).goTo rfl
      · exact (names.addOrdering term false).nextPart? stepped
  | orderDirected =>
      simp only [Reader.step?] at stepped
      split at stepped
      · cases stepped
        exact names.goTo rfl
      · exact names.nextPart? stepped
  | limit =>
      simp only [Reader.step?] at stepped
      split at stepped
      · obtain ⟨count, -, rfl⟩ := Option.map_eq_some_iff.mp stepped
        exact ⟨rfl, names.table⟩
      · cases stepped
  | finished => cases stepped

theorem Names.step (names : reader.Names name) {sql : String} {lexeme : Lexeme}
    (stepped : reader.step sql lexeme = .ok next) : next.Names name := by
  rw [Reader.step] at stepped
  split at stepped
  · cases stepped
  · split at stepped
    · rename_i found
      cases stepped
      exact names.step? found
    · cases stepped

/-- No lexemes behind the name of the table change it. -/
theorem Names.foldlM_step {sql : String} {lexemes : List Lexeme} (names : reader.Names name)
    (stepped : lexemes.foldlM (Reader.step sql) reader = .ok next) : next.Names name := by
  induction lexemes generalizing reader with
  | nil =>
      cases stepped
      exact names
  | cons lexeme lexemes later =>
      rw [List.foldlM_cons] at stepped
      obtain ⟨middle, first, rest⟩ := Except.bind_eq_ok_iff.mp stepped
      exact later (names.step first) rest

theorem Names.table_finish? (names : reader.Names name) {statement : Statement ColumnName}
    (finished : reader.finish? = some statement) : statement.table = name := by
  rw [Reader.finish?] at finished
  split at finished
  case h_4 =>
    obtain ⟨condition, -, rfl⟩ := Option.map_eq_some_iff.mp finished
    exact names.table
  all_goals cases finished
  all_goals exact names.table

end Reader

/-! ## The statement of a selection -/

/-- A statement is read when its lexemes lead to a place where it may end. -/
theorem read_eq_ok_iff {sql : String} {statement : Statement ColumnName} :
    read sql = .ok statement ↔
      ∃ reader, (lexemes sql.toList).foldlM (Reader.step sql) .start = .ok reader ∧
        reader.finish? = some statement := by
  rw [read]
  cases (lexemes sql.toList).foldlM (Reader.step sql) .start with
  | error failure => simp [bind, Except.bind]
  | ok reader => cases finished : reader.finish? <;> simp [bind, Except.bind, finished]

/-- A statement that names a quoted table is either refused or one on this table. -/
theorem table_of_read {sql : String} {name rest : List Char} {statement : Statement ColumnName}
    (written : sql.toList = "SELECT * FROM ".toList ++ Text.quoteName name ++ rest)
    (free : rest.head? ≠ some '"') (ok : read sql = .ok statement) :
    statement.table = String.ofList name := by
  obtain ⟨reader, stepped, finished⟩ := read_eq_ok_iff.mp ok
  have cut := lexemes_append (apart_quoteName name free)
  rw [← written, lexemes_wholeTable] at cut
  rw [cut, List.foldlM_append, List.foldlM_append, foldlM_step_opening] at stepped
  have names : Reader.Names ⟨.clause, ⟨String.ofList name, 14, none, [], [], none⟩⟩
      (String.ofList name) :=
    ⟨rfl, rfl⟩
  exact (names.foldlM_step stepped).table_finish? finished

end CardShell.Sql

namespace CardShell

namespace Selection

/-- No part of a statement starts with a quote. -/
theorem head?_partSql (keyword separator : String) (items : List String)
    (blank : keyword.toList.head? = some ' ') :
    (partSql keyword separator items).toList.head? ≠ some '"' := by
  rw [partSql]
  split
  · simp
  · rw [String.toList_append, List.head?_append, blank]
    simp

theorem head?_append_ne {left right : List Char} (first : left.head? ≠ some '"')
    (second : right.head? ≠ some '"') : (left ++ right).head? ≠ some '"' := by
  cases left with
  | nil => exact second
  | cons character left => exact first

/-- The name of the table is quoted, and what stands behind it does not start with a
quote. -/
theorem exists_toList_sql (selection : Selection) :
    ∃ rest : List Char, rest.head? ≠ some '"' ∧
      selection.sql.toList =
        "SELECT * FROM ".toList ++ Text.quoteName selection.entity.name.toList ++ rest := by
  have quoted : (Text.quoteString selection.entity.name).toList =
      Text.quoteName selection.entity.name.toList :=
    String.toList_ofList
  have filters := head?_partSql " WHERE " " AND "
    (selection.filters.map (filterSql selection.entity.name)) (by decide)
  have groupings := head?_partSql " GROUP BY " ", " selection.groupings (by decide)
  have orderings := head?_partSql " ORDER BY " ", " selection.orderings (by decide)
  have behind := head?_append_ne (head?_append_ne filters groupings) orderings
  unfold sql
  generalize partSql " WHERE " _ _ = filtering at behind ⊢
  generalize partSql " GROUP BY " _ _ = grouping at behind ⊢
  generalize partSql " ORDER BY " _ _ = ordering at behind ⊢
  cases selection.limit with
  | none => exact ⟨_, behind, by simp [quoted]⟩
  | some count =>
      have limit : (" LIMIT " ++ Text.ofNat count).toList.head? ≠ some '"' := by
        simp
      exact ⟨_, head?_append_ne behind limit, by simp [quoted]⟩

end Selection

namespace Database

/-- A statement runs when it is read, its table is there and its names are found. -/
theorem run_eq_ok_iff {database : Database} {sql : String} {columns : List String}
    {rows : List (List Value)} :
    database.run sql = .ok (columns, rows) ↔
      ∃ statement table resolved, Sql.read sql = .ok statement ∧
        database.table? statement.table = some table ∧
        resolve table sql statement = .ok resolved ∧ counts resolved.limit = true ∧
        table.columnNames = columns ∧ select resolved table.rows = rows := by
  constructor
  · intro ok
    rcases Except.bind_eq_ok_iff.mp ok with ⟨statement, read, ok⟩
    cases found : database.table? statement.table with
    | none =>
        rw [found] at ok
        contradiction
    | some table =>
        rw [found] at ok
        rcases Except.bind_eq_ok_iff.mp ok with ⟨resolved, resolves, ok⟩
        split at ok
        · rename_i counts
          cases ok
          exact ⟨statement, table, resolved, read, found, resolves, counts, rfl, rfl⟩
        · contradiction
  · rintro ⟨statement, table, resolved, read, found, resolves, counts, rfl, rfl⟩
    simp only [run, read, found, resolves, counts, bind, Except.bind, if_true]
    rfl

/-- A statement that a database runs is one of its tables, and its rows come with the
columns of that table. -/
theorem exists_table_of_run {database : Database} {sql : String} {columns : List String}
    {rows : List (List Value)} (ok : database.run sql = .ok (columns, rows)) :
    ∃ statement, Sql.read sql = .ok statement ∧
      ∃ table ∈ database.tables, table.name = statement.table ∧ table.columnNames = columns := by
  obtain ⟨statement, table, -, read, found, -, -, names, -⟩ := run_eq_ok_iff.mp ok
  obtain ⟨member, same⟩ := (find?_eq_some_iff_of_nodup database.distinct).mp found
  exact ⟨statement, read, table, member, same, names⟩

/-- The rows of a selection come with the columns of the table of its entity. -/
theorem exists_table_of_run_selection {database : Database} {selection : Selection}
    {columns : List String} {rows : List (List Value)}
    (ok : database.run selection.sql = .ok (columns, rows)) :
    ∃ table ∈ database.tables,
      table.name = selection.entity.name ∧ table.columnNames = columns := by
  obtain ⟨rest, free, written⟩ := selection.exists_toList_sql
  obtain ⟨statement, read, table, member, same, names⟩ := exists_table_of_run ok
  refine ⟨table, member, ?_, names⟩
  rw [same, Sql.table_of_read written free read, String.ofList_toList]

end Database

end CardShell
