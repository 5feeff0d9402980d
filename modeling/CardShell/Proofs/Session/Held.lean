import CardShell.Proofs.Session.Models
import CardShell.Proofs.Shell.Views
import CardShell.Proofs.Sql.NamedTable

/-!
# What a session holds

However a session is used, what it holds is the result of the last query that succeeded:
an entity of its catalog and rows that have exactly the columns of that entity.  The
columns come from two places, from the schema when the session is opened and from the
statement when it is run, and that the two agree is what is asked of the storage engine.
-/

namespace CardShell

/-! ## Columns of a selection -/

/-- A database lists the columns of a table as it names them in a selection of that
table. -/
def Engine.NamesColumns (δ : Type) [Engine δ] : Prop :=
  ∀ (database : δ) (items : List SchemaItem) (item : SchemaItem) (selection : Selection)
    (prepared : Prepared), Engine.tables database = .ok items → item ∈ items →
    item.name = selection.entity.name → Engine.prepare database selection.sql = .ok prepared →
    prepared.columns = item.columns

theorem Database.prepare_handle (database : Database) (sql : String) :
    Engine.prepare (Handle.database database) sql = database.prepared sql :=
  rfl

/-- A file with a database names the columns of its tables. -/
theorem Handle.namesColumns : Engine.NamesColumns Handle := by
  intro handle items item selection prepared listed member named ready
  cases handle with
  | unreadable => cases listed
  | database content =>
      rw [Database.tables_handle] at listed
      rw [← Except.ok.inj listed] at member
      obtain ⟨stored, kind, -⟩ := Engine.mem_listed_iff.mp member
      obtain ⟨table, inside, sameName, columns⟩ :=
        Database.exists_table_of_mem_schemaItems stored kind
      rw [Database.prepare_handle, Database.prepared] at ready
      obtain ⟨result, ran, rfl⟩ := Except.map_eq_ok_iff.mp ready
      obtain ⟨other, within, otherName, otherColumns⟩ := Database.exists_table_of_run_selection ran
      have found := Database.table?_of_mem inside
      rw [sameName, named, ← otherName, Database.table?_of_mem within] at found
      obtain rfl := Option.some.inj found
      exact otherColumns.symm.trans columns

/-- Rows are collected exactly when none of them fails, each under the columns of the
statement. -/
theorem Prepared.collect_eq_ok_iff {prepared : Prepared} {rows : List Row} :
    prepared.collect = .ok rows ↔
      ∃ values : List (List Value), prepared.rows = values.map .ok ∧
        rows = values.map (Row.ofValues prepared.columns) := by
  obtain ⟨columns, outcomes⟩ := prepared
  constructor
  · intro collected
    induction outcomes generalizing rows with
    | nil =>
        cases collected
        exact ⟨[], rfl, rfl⟩
    | cons outcome outcomes later =>
        rw [collect, List.mapM_cons] at collected
        obtain ⟨row, first, collected⟩ := Except.bind_eq_ok_iff.mp collected
        obtain ⟨others, rest, collected⟩ := Except.bind_eq_ok_iff.mp collected
        obtain ⟨values, rfl, rfl⟩ := Except.map_eq_ok_iff.mp first
        obtain ⟨further, all, rfl⟩ := later rest
        cases collected
        exact ⟨values :: further, congrArg (Except.ok values :: ·) all, rfl⟩
  · rintro ⟨values, all, rfl⟩
    dsimp only at all
    rw [all]
    exact Database.collect_ok columns values

/-! ## Rows of an entity -/

/-- A row has the columns of an entity in their order and one value for each of them. -/
structure Row.Fits (row : Row) (entity : Entity) : Prop where
  columns : row.columns = entity.columns
  values : row.values.length = entity.columns.length

namespace Row.Fits

variable {row : Row} {entity : Entity}

/-- No column of a row that fits is without its value. -/
theorem map_fst_entries (fits : row.Fits entity) : row.entries.map Prod.fst = entity.columns := by
  rw [entries, List.map_fst_zip (by rw [fits.columns, fits.values]), fits.columns]

/-- No value of a row that fits is without its column. -/
theorem map_snd_entries (fits : row.Fits entity) : row.entries.map Prod.snd = row.values := by
  rw [entries, List.map_snd_zip (by rw [fits.columns, fits.values])]

end Row.Fits

/-- Where no columns are chosen, a detail is a whole row. -/
theorem Cursor.detailOf_of_chosen?_eq_none {choice : ColumnChoice} {entity : Entity}
    (unconfigured : choice.chosen? entity.name = none) (row : Row) :
    detailOf choice entity row = ⟨row.entries⟩ := by
  have all : ∀ entry ∈ row.entries, choice.shows entity.name entry.1 = true := by
    intro entry _
    rw [ColumnChoice.shows, unconfigured]
  rw [detailOf, List.filter_eq_self.mpr all]

/-- The rows of a selection fit its entity. -/
theorem Bound.fits_of_execute {δ : Type} [Engine δ] (named : Engine.NamesColumns δ)
    {databases : Databases δ} {catalog : Catalog}
    (reflected : databases.catalog.result = .ok catalog) {selection : Selection}
    (member : selection.entity ∈ catalog.entities) {rows : List Row}
    (executed : (databases.bind selection).execute = .ok rows) :
    ∀ row ∈ rows, row.Fits selection.entity := by
  obtain ⟨items, listed, item, present, same, columns⟩ :=
    Databases.exists_listed_of_mem_catalog reflected member
  change Engine.query (databases.on selection.entity.side) selection.sql = .ok rows at executed
  obtain ⟨prepared, ready, collected⟩ := Except.bind_eq_ok_iff.mp executed
  obtain ⟨values, -, rfl⟩ := Prepared.collect_eq_ok_iff.mp collected
  have names : prepared.columns = selection.entity.columns :=
    (named _ items item selection prepared listed present same ready).trans columns
  intro row inside
  obtain ⟨content, -, rfl⟩ := List.mem_map.mp inside
  exact ⟨names, names ▸ Row.length_values_ofValues prepared.columns content⟩

namespace Session

variable {δ : Type} [Engine δ] {session : Session δ}

/-! ## One query -/

/-- A query succeeds with the rows of a selection of the entity that its instruction
names. -/
theorem exists_of_result_query {input : String} {report : Report}
    (ok : (session.query input).2.result = .ok report) :
    ∃ instruction selection, (Instruction.read input).result = .ok instruction ∧
      session.catalog.get? instruction.entity = some report.entity ∧
      selection.entity = report.entity ∧
      (session.databases.bind selection).execute = .ok report.rows := by
  obtain ⟨found, evaluated, rfl⟩ := Except.map_eq_ok_iff.mp ok
  rw [result_evaluate] at evaluated
  obtain ⟨instruction, read, evaluated⟩ := Except.bind_eq_ok_iff.mp evaluated
  obtain ⟨selection, selected, evaluated⟩ := Except.bind_eq_ok_iff.mp evaluated
  obtain ⟨rows, executed, rfl⟩ := Except.map_eq_ok_iff.mp evaluated
  exact ⟨instruction, selection, Except.mapError_eq_ok_iff.mp read,
    Catalog.get?_of_select selected, rfl, Except.mapError_eq_ok_iff.mp executed⟩

/-- What a session holds belongs to its catalog: rows come with an entity of the catalog
and fit it. -/
structure Sound (session : Session δ) : Prop where
  reflected : session.databases.catalog.result = .ok session.catalog
  entity_of_rows : session.cursor.rows ≠ [] → session.cursor.entity.isSome
  known : ∀ entity, session.cursor.entity = some entity → entity ∈ session.catalog.entities
  fits : ∀ entity, session.cursor.entity = some entity →
    ∀ row ∈ session.cursor.rows, row.Fits entity

theorem Sound.query (named : Engine.NamesColumns δ) (sound : session.Sound) (input : String) :
    (session.query input).1.Sound := by
  rw [query_fst]
  cases outcome : (session.query input).2.result with
  | error failure => exact sound
  | ok report =>
      obtain ⟨instruction, selection, -, found, same, executed⟩ := exists_of_result_query outcome
      have member := Catalog.mem_of_get? found
      have fits := Bound.fits_of_execute named sound.reflected (same ▸ member) executed
      constructor
      · exact sound.reflected
      · exact fun _ => rfl
      · rintro entity ⟨⟩
        exact member
      · rintro entity ⟨⟩
        rwa [same] at fits

/-! ## Runs of requests -/

/-- A session that has just been opened: its catalog is the one of its databases, and it
has held no result. -/
structure Opened (session : Session δ) : Prop where
  reflected : session.databases.catalog.result = .ok session.catalog
  fresh : session.cursor = .empty

theorem Opened.of_ofDatabases {databases : Databases δ} {choice : ColumnChoice}
    (ok : (ofDatabases databases choice).result = .ok session) : session.Opened := by
  obtain ⟨catalog, reflected, rfl⟩ := result_ofDatabases_eq_ok_iff.mp ok
  exact ⟨reflected, rfl⟩

theorem Opened.of_start {system : FileSystem} {settings : Settings} {session : Session Handle}
    (started : (start system settings).2.result = .ok session) : session.Opened := by
  obtain ⟨databases, choice, new, catalog, inventory, fresh, rfl⟩ :=
    exists_ofDatabases_of_start started
  have opened := Opened.of_ofDatabases fresh
  exact ⟨opened.reflected, opened.fresh⟩

/-- What a session can be asked to do. -/
inductive Request where
  | query (input : String)
  | row (input : String)
  | rowAt (index : Int)
  | columns (input : String)
  | databasePath (input : String)
  | choice (chosen : ColumnChoice)
deriving DecidableEq, Repr

/-- The session behind a request.  Rows, columns and paths are only looked up. -/
def serve (session : Session δ) : Request → Session δ
  | .query input => (session.query input).1
  | .choice chosen => { session with choice := chosen }
  | .row _ | .rowAt _ | .columns _ | .databasePath _ => session

/-- The session behind a run of requests. -/
def afterRequests (session : Session δ) (requests : List Request) : Session δ :=
  requests.foldl serve session

/-- The report of a request and its instruction, if it is a query that succeeds. -/
def answer? (session : Session δ) : Request → Option (String × Report)
  | .query input =>
      match (session.query input).2.result with
      | .ok report => some (input, report)
      | .error _ => none
  | _ => none

/-- The last query of a run that succeeds where it stands, and its report. -/
def lastAnswer? (session : Session δ) : List Request → Option (String × Report)
  | [] => none
  | request :: requests =>
      ((session.serve request).lastAnswer? requests).or (session.answer? request)

theorem answer?_eq_some_iff {request : Request} {input : String} {report : Report} :
    session.answer? request = some (input, report) ↔
      request = .query input ∧ (session.query input).2.result = .ok report := by
  cases request with
  | query other =>
      rw [answer?]
      cases outcome : (session.query other).2.result with
      | ok found =>
          simp only [Option.some.injEq, Prod.mk.injEq, Request.query.injEq]
          constructor
          · rintro ⟨rfl, rfl⟩
            exact ⟨rfl, outcome⟩
          · rintro ⟨rfl, same⟩
            exact ⟨rfl, Except.ok.inj (outcome.symm.trans same)⟩
      | error failure =>
          simp only [reduceCtorEq, Request.query.injEq, false_iff, not_and]
          rintro rfl same
          rw [outcome] at same
          cases same
  | _ => simp [answer?]

/-- No request changes the databases or the catalog. -/
theorem exists_serve_eq (session : Session δ) (request : Request) :
    ∃ choice cursor, session.serve request = { session with choice, cursor } := by
  cases request with
  | query input =>
      obtain ⟨cursor, same⟩ := session.exists_query_fst_eq input
      exact ⟨session.choice, cursor, same⟩
  | choice chosen => exact ⟨chosen, session.cursor, rfl⟩
  | _ => exact ⟨session.choice, session.cursor, rfl⟩

theorem catalog_serve (session : Session δ) (request : Request) :
    (session.serve request).catalog = session.catalog := by
  obtain ⟨choice, cursor, same⟩ := session.exists_serve_eq request
  rw [same]

theorem catalog_afterRequests (session : Session δ) (requests : List Request) :
    (session.afterRequests requests).catalog = session.catalog := by
  induction requests generalizing session with
  | nil => rfl
  | cons request requests later =>
      exact (later (session.serve request)).trans (session.catalog_serve request)

/-- A query that succeeds replaces what is held, and no other request does. -/
theorem cursor_serve (session : Session δ) (request : Request) :
    (session.serve request).cursor =
      match session.answer? request with
      | some (_, report) => .record report.entity report.rows
      | none => session.cursor := by
  cases request with
  | query input =>
      rw [serve, query_fst, answer?]
      cases (session.query input).2.result <;> rfl
  | _ => rfl

/-- Behind a run a session holds what the last query that succeeded has reported. -/
theorem cursor_afterRequests (session : Session δ) (requests : List Request) :
    (session.afterRequests requests).cursor =
      match session.lastAnswer? requests with
      | some (_, report) => .record report.entity report.rows
      | none => session.cursor := by
  induction requests generalizing session with
  | nil => rfl
  | cons request requests later =>
      change ((session.serve request).afterRequests requests).cursor = _
      rw [later, lastAnswer?, cursor_serve]
      cases (session.serve request).lastAnswer? requests <;> rfl

/-- The last answer of a run is about the entity that its instruction names. -/
theorem exists_of_lastAnswer? {requests : List Request} {input : String} {report : Report}
    (last : session.lastAnswer? requests = some (input, report)) :
    ∃ instruction, (Instruction.read input).result = .ok instruction ∧
      session.catalog.get? instruction.entity = some report.entity := by
  induction requests generalizing session with
  | nil => cases last
  | cons request requests later =>
      rcases Option.or_eq_some_iff.mp last with behind | ⟨-, here⟩
      · rw [← session.catalog_serve request]
        exact later behind
      · obtain ⟨-, ok⟩ := answer?_eq_some_iff.mp here
        obtain ⟨instruction, -, read, found, -, -⟩ := exists_of_result_query ok
        exact ⟨instruction, read, found⟩

theorem Opened.sound (opened : session.Opened) : session.Sound where
  reflected := opened.reflected
  entity_of_rows rows := absurd (congrArg Cursor.rows opened.fresh) rows
  known entity held := by
    rw [opened.fresh] at held
    cases held
  fits entity held := by
    rw [opened.fresh] at held
    cases held

/-- No request makes what is held unsound. -/
theorem Sound.serve (named : Engine.NamesColumns δ) (sound : session.Sound) (request : Request) :
    (session.serve request).Sound := by
  cases request with
  | query input => exact sound.query named input
  | choice chosen => exact ⟨sound.reflected, sound.entity_of_rows, sound.known, sound.fits⟩
  | _ => exact sound

theorem Sound.afterRequests (named : Engine.NamesColumns δ) (sound : session.Sound)
    (requests : List Request) : (session.afterRequests requests).Sound := by
  induction requests generalizing session with
  | nil => exact sound
  | cons request requests later => exact later (sound.serve named request)

/-! ## Rows that are shown -/

omit [Engine δ] in
/-- Every row that is held is shown under its index. -/
theorem rowAt_of_held {entity : Entity} {index : Nat} {row : Row}
    (held : session.cursor.entity = some entity) (found : session.cursor.rows[index]? = some row) :
    session.rowAt index = .ok (Cursor.detailOf session.choice entity row) := by
  have recorded : session.cursor = .record entity session.cursor.rows := by
    rw [Cursor.record, ← held]
  rw [rowAt, recorded]
  exact Cursor.inspect_record found session.choice

omit [Engine δ] in
/-- A row that is shown is one of the rows that are held. -/
theorem exists_of_row_eq_ok {input : String} {detail : Detail}
    (shown : session.row input = .ok detail) :
    ∃ entity row, session.cursor.entity = some entity ∧ row ∈ session.cursor.rows ∧
      detail = Cursor.detailOf session.choice entity row := by
  rw [row_eq_map_locate] at shown
  obtain ⟨found, located, rfl⟩ := Except.map_eq_ok_iff.mp shown
  obtain ⟨index, located⟩ := exists_locate_of_locate located
  obtain ⟨held, member⟩ := Cursor.mem_of_locate located
  exact ⟨found.1, found.2, held, member, rfl⟩

end Session

end CardShell
