import CardShell.Proofs.Session.Routing
import CardShell.Proofs.Shell.Run

/-!
# Reachable sessions

A session comes from two databases, or from the files that settings name, and
then answers queries and has columns chosen.  Whatever happens to it, its catalog
stays the one that was read from its databases.
-/

namespace CardShell.Session

variable {δ : Type} [Engine δ]

/-- The sessions that can come about. -/
inductive Reachable : Session δ → Prop
  | /-- A new session on two databases. -/
    opened {databases : Databases δ} {choice : ColumnChoice} {session : Session δ} :
      (ofDatabases databases choice).result = .ok session → Reachable session
  | /-- A session that knows where its databases are. -/
    located {session : Session δ} (catalog inventory : Location) : Reachable session →
      Reachable { session with catalogLocation := catalog, inventoryLocation := inventory }
  | asked {session : Session δ} (input : String) : Reachable session →
      Reachable (session.query input).1
  | chosen {session : Session δ} (entity : String) (columns : List String) : Reachable session →
      Reachable (session.choose entity columns)

/-- A new session has the catalog of its databases and has held no result. -/
theorem result_ofDatabases_eq_ok_iff {databases : Databases δ} {choice : ColumnChoice}
    {session : Session δ} :
    (ofDatabases databases choice).result = .ok session ↔
      ∃ catalog, databases.catalog.result = .ok catalog ∧
        session = ⟨databases, catalog, choice, .empty, .memory, .memory⟩ := by
  rw [ofDatabases, Noted.result_map, Noted.result_mapError]
  cases databases.catalog.result with
  | error failure => simp [Except.mapError, Except.map]
  | ok catalog => simp [Except.mapError, Except.map, eq_comm]

/-- A query replaces nothing but the last result. -/
theorem exists_query_fst_eq (session : Session δ) (input : String) :
    ∃ cursor, (session.query input).1 = { session with cursor } := by
  rw [query_fst]
  cases (session.query input).2.result with
  | ok report => exact ⟨.record report.entity report.rows, rfl⟩
  | error failure => exact ⟨session.cursor, rfl⟩

/-- The catalog of a session is the one of its databases. -/
theorem Reachable.result_catalog {session : Session δ} (reachable : session.Reachable) :
    session.databases.catalog.result = .ok session.catalog := by
  induction reachable with
  | opened ok =>
      obtain ⟨catalog, reflected, rfl⟩ := result_ofDatabases_eq_ok_iff.mp ok
      exact reflected
  | located catalog inventory _ reflected => exact reflected
  | asked input _ reflected =>
      obtain ⟨cursor, same⟩ := exists_query_fst_eq (δ := δ) _ input
      rw [same]
      exact reflected
  | chosen entity columns _ reflected => exact reflected

/-- A session that settings open is a new one that knows where its databases are. -/
theorem exists_ofDatabases_of_start {system : FileSystem} {settings : Settings}
    {session : Session Handle} (started : (start system settings).2.result = .ok session) :
    ∃ (databases : Databases Handle) (choice : ColumnChoice) (new : Session Handle)
      (catalog inventory : Location), (ofDatabases databases choice).result = .ok new ∧
        session = { new with catalogLocation := catalog, inventoryLocation := inventory } := by
  simp only [start] at started
  generalize openDatabases system settings = outcome at started
  obtain ⟨after, databases⟩ := outcome
  cases databases with
  | error failure => contradiction
  | ok found =>
      obtain ⟨catalog, inventory, databases⟩ := found
      generalize loadChoice after settings = choice at started
      cases choice with
      | error failure => contradiction
      | ok choice =>
          change ((ofDatabases databases choice).map _).result = .ok session at started
          rw [Noted.result_map] at started
          cases fresh : (ofDatabases databases choice).result with
          | error failure =>
              rw [fresh] at started
              contradiction
          | ok new =>
              rw [fresh] at started
              cases started
              exact ⟨databases, choice, new, catalog, inventory, fresh, rfl⟩

/-- A session that settings open can come about. -/
theorem Reachable.of_start {system : FileSystem} {settings : Settings}
    {session : Session Handle} (started : (start system settings).2.result = .ok session) :
    session.Reachable := by
  obtain ⟨databases, choice, new, catalog, inventory, fresh, rfl⟩ :=
    exists_ofDatabases_of_start started
  exact (Reachable.opened fresh).located catalog inventory

end CardShell.Session
