import CardShell.Proofs.Session.Reachable

/-!
# The two databases stay apart

An entity is lent by one side only, the side that its name decides, so what a
name finds in a catalog depends on the database of that side alone.  Sessions
that share one database therefore answer alike whatever the other one holds, as
long as the instruction names an entity of the shared side.
-/

namespace CardShell

namespace Databases

variable {δ : Type} [Engine δ]

/-- What a database lends for a side has no name of the other side. -/
theorem find?_divide_of_ne {side : Side} {name : String} (items : List SchemaItem)
    (foreign : Side.ofEntity name ≠ side) :
    (divide side items).2.reverse.find? (fun entity => entity.name == name) = none := by
  rw [List.find?_eq_none]
  intro entity member same
  obtain ⟨belongs, -⟩ := mem_divide_iff.mp (List.mem_reverse.mp member)
  exact foreign (eq_of_beq same ▸ belongs)

/-- A name finds the last table of that name among those listed on the side of the
name. -/
theorem exists_tables_find? {databases : Databases δ} {catalog : Catalog}
    (reflected : databases.catalog.result = .ok catalog) (name : String) :
    ∃ items, Engine.tables (databases.on (Side.ofEntity name)) = .ok items ∧
      catalog.find? name = (divide (Side.ofEntity name) items).2.reverse.find?
        fun entity => entity.name == name := by
  obtain ⟨primary, secondary, first, second, rfl⟩ := result_catalog_eq_ok_iff.mp reflected
  rw [Catalog.find?_foldl_insert, List.reverse_append, List.find?_append]
  cases side : Side.ofEntity name with
  | primary =>
      refine ⟨primary, first, ?_⟩
      rw [find?_divide_of_ne secondary (side ▸ by decide), Option.none_or]
      exact Option.or_none
  | secondary =>
      refine ⟨secondary, second, ?_⟩
      rw [find?_divide_of_ne primary (side ▸ by decide), Option.or_none]
      exact Option.or_none

variable {first second : Databases δ} {catalog other : Catalog}

/-- Where databases share the side of a name, it finds the same entity. -/
theorem find?_eq_of_on_eq (reflected : first.catalog.result = .ok catalog)
    (reflectedOther : second.catalog.result = .ok other) {name : String}
    (shared : first.on (Side.ofEntity name) = second.on (Side.ofEntity name)) :
    catalog.find? name = other.find? name := by
  obtain ⟨items, tables, found⟩ := exists_tables_find? reflected name
  obtain ⟨others, otherTables, foundOther⟩ := exists_tables_find? reflectedOther name
  rw [shared, otherTables] at tables
  cases tables
  rw [found, foundOther]

/-- A name belongs to a side when the entities that it may stand for do: the table
of that name and, if it is a model, the table of the model. -/
def BelongsTo (name : String) (side : Side) : Prop :=
  Side.ofEntity name = side ∧ ∀ entry : CardTable, name = entry.model → side = .primary

/-- Where databases share the side to which a name belongs, it stands for the same
entity. -/
theorem get?_eq_of_on_eq (reflected : first.catalog.result = .ok catalog)
    (reflectedOther : second.catalog.result = .ok other) {name : String} {side : Side}
    (belongs : BelongsTo name side) (shared : first.on side = second.on side) :
    catalog.get? name = other.get? name := by
  obtain ⟨own, model⟩ := belongs
  rw [Catalog.get?, Catalog.get?, find?_eq_of_on_eq reflected reflectedOther (own ▸ shared)]
  cases known : CardTable.ofModel? name with
  | none => rfl
  | some entry =>
      have primary : Side.ofEntity entry.table = side :=
        (Side.ofEntity_eq_primary_iff.mpr ⟨entry, rfl⟩).trans
          (model entry (CardTable.ofModel?_eq_some_iff.mp known)).symm
      rw [Option.bind_some, Option.bind_some,
        find?_eq_of_on_eq reflected reflectedOther (primary ▸ shared)]

end Databases

theorem Catalog.name_of_find? {catalog : Catalog} {name : String} {entity : Entity}
    (found : catalog.find? name = some entity) : entity.name = name := by
  simpa using List.find?_some (show catalog.entities.find? _ = some entity from found)

/-- An entity that a name stands for is on the side to which the name belongs. -/
theorem Catalog.side_of_get? {catalog : Catalog} {name : String} {entity : Entity} {side : Side}
    (belongs : Databases.BelongsTo name side) (found : catalog.get? name = some entity) :
    entity.side = side := by
  obtain ⟨own, model⟩ := belongs
  rcases Option.or_eq_some_iff.mp found with exact | ⟨-, aliased⟩
  · rw [Entity.side, name_of_find? exact, own]
  · obtain ⟨entry, known, table⟩ := Option.bind_eq_some_iff.mp aliased
    rw [Entity.side, name_of_find? table, model entry (CardTable.ofModel?_eq_some_iff.mp known)]
    exact Side.ofEntity_eq_primary_iff.mpr ⟨entry, rfl⟩

/-- Clauses do not change the entity of a selection. -/
theorem Selection.entity_addAll (selection : Selection) (clauses : List Clause) :
    (selection.addAll clauses).entity = selection.entity := by
  induction clauses generalizing selection with
  | nil => rfl
  | cons clause clauses later =>
      change ((selection.add clause).addAll clauses).entity = _
      rw [later]
      cases clause <;> rfl

/-- The first word of an instruction, which names its entity. -/
def Instruction.entityWord (input : String) : String :=
  String.ofList (Text.firstWord (Text.trim input.toList))

theorem Instruction.entity_of_read {input : String} {instruction : Instruction}
    (ok : (read input).result = .ok instruction) :
    instruction.entity = entityWord input := by
  rw [read] at ok
  split at ok
  · rw [Noted.result_map] at ok
    cases clauses : (readClauses (Text.afterFirstWord (Text.trim input.toList))).result with
    | error failure =>
        rw [clauses] at ok
        contradiction
    | ok found =>
        rw [clauses] at ok
        cases ok
        rfl
  · contradiction

namespace Session

variable {δ : Type} [Engine δ]

/-- What an instruction comes to depends on the reading, on what its entity stands
for, and on the database of that entity. -/
theorem evaluate_congr {first second : Session δ} {input : String}
    (same : ∀ instruction, (Instruction.read input).result = .ok instruction →
      first.catalog.get? instruction.entity = second.catalog.get? instruction.entity ∧
      ∀ entity, first.catalog.get? instruction.entity = some entity →
        first.databases.on entity.side = second.databases.on entity.side) :
    first.evaluate input = second.evaluate input := by
  rw [evaluate, evaluate]
  generalize Instruction.read input = outcome at same ⊢
  obtain ⟨notices, result⟩ := outcome
  cases result with
  | error failure => rfl
  | ok instruction =>
      obtain ⟨catalogs, databases⟩ := same instruction rfl
      have selected : first.catalog.selectInstruction instruction =
          second.catalog.selectInstruction instruction := by
        rw [Catalog.selectInstruction, Catalog.select, catalogs]
        rfl
      have bound : ∀ selection, first.catalog.selectInstruction instruction = .ok selection →
          first.databases.bind selection = second.databases.bind selection := by
        intro selection ok
        rw [Catalog.selectInstruction, Catalog.select] at ok
        cases found : first.catalog.get? instruction.entity with
        | none =>
            rw [found] at ok
            contradiction
        | some entity =>
            rw [found] at ok
            have entityEq : selection.entity = entity := by
              rw [← Except.ok.inj ok, Selection.entity_addAll]
              rfl
            rw [Databases.bind, Databases.bind, entityEq, databases entity found]
      simp only [Noted.mapError, Except.mapError, Noted.bind]
      rw [← selected]
      cases outcome : first.catalog.selectInstruction instruction with
      | error failure => rfl
      | ok selection => simp only [bind, Except.bind, bound selection outcome]

/-- Two sessions answer an instruction alike. -/
structure AnswersLike (first second : Session δ) (input : String) : Prop where
  /-- The notices are the same, and so is the selection with its statement, the side
  and the database that it is bound to and the rows, or the failure. -/
  evaluate : first.evaluate input = second.evaluate input
  /-- The same is reported of the entity, the side and the rows, or the failure. -/
  report : ((first.query input).2.map fun report => (report.entity, report.side, report.rows)) =
    (second.query input).2.map fun report => (report.entity, report.side, report.rows)
  /-- The whole report is the same when the same columns are chosen. -/
  query : first.choice = second.choice → (first.query input).2 = (second.query input).2

theorem AnswersLike.of_evaluate {first second : Session δ} {input : String}
    (same : first.evaluate input = second.evaluate input) : first.AnswersLike second input where
  evaluate := same
  report := by
    simp only [Session.query, same]
    generalize second.evaluate input = outcome
    obtain ⟨notices, result⟩ := outcome
    cases result <;> rfl
  query chosen := by
    simp only [Session.query, same, chosen]

/-- Sessions that share the side to which the entity of an instruction belongs
answer the instruction alike. -/
theorem AnswersLike.of_belongsTo {first second : Session δ} (reachable : first.Reachable)
    (otherReachable : second.Reachable) {input : String} {side : Side}
    (belongs : Databases.BelongsTo (Instruction.entityWord input) side)
    (shared : first.databases.on side = second.databases.on side) :
    first.AnswersLike second input := by
  apply AnswersLike.of_evaluate
  apply evaluate_congr
  intro instruction ok
  rw [Instruction.entity_of_read ok]
  constructor
  · exact Databases.get?_eq_of_on_eq reachable.result_catalog otherReachable.result_catalog
      belongs shared
  · intro entity found
    rw [Catalog.side_of_get? belongs found]
    exact shared

/-- What the secondary database holds does not show in answers to instructions on
tables of the card catalog, and what the primary database holds does not show in
answers to instructions whose entity is neither such a table nor a model. -/
theorem query_ignores_other_database {first second : Session δ} (reachable : first.Reachable)
    (otherReachable : second.Reachable) (input : String) :
    (first.databases.primary = second.databases.primary →
      (∃ entry : CardTable, Instruction.entityWord input = entry.table) →
      first.AnswersLike second input) ∧
    (first.databases.secondary = second.databases.secondary →
      (∀ entry : CardTable, Instruction.entityWord input ≠ entry.table ∧
        Instruction.entityWord input ≠ entry.model) →
      first.AnswersLike second input) := by
  constructor
  · intro shared table
    have belongs : Databases.BelongsTo _ .primary :=
      ⟨Side.ofEntity_eq_primary_iff.mpr table, fun _ _ => rfl⟩
    exact .of_belongsTo reachable otherReachable belongs shared
  · intro shared neither
    have belongs : Databases.BelongsTo (Instruction.entityWord input) .secondary := by
      constructor
      · cases side : Side.ofEntity (Instruction.entityWord input) with
        | primary =>
            obtain ⟨entry, table⟩ := Side.ofEntity_eq_primary_iff.mp side
            exact absurd table (neither entry).1
        | secondary => rfl
      · exact fun entry model => absurd model (neither entry).2
    exact .of_belongsTo reachable otherReachable belongs shared

/-- A second table of cards in the secondary database and a table of copies in the
primary one are not seen. -/
theorem query_ignores_tables_of_same_names :
    let cards (name : String) : Database :=
      .ofTables [⟨"cards", [⟨"name", .text⟩], [[.text name]]⟩,
        ⟨"copies", [⟨"owner", .text⟩], [[.text name]]⟩] []
    ∃ first second third : Session Handle,
      first.Reachable ∧ second.Reachable ∧ third.Reachable ∧
      first.databases = ⟨.database (cards "Forest"), .database (cards "Island")⟩ ∧
      second.databases = ⟨.database (cards "Forest"), .database .empty⟩ ∧
      third.databases = ⟨.database .empty, .database (cards "Island")⟩ ∧
      (first.query "cards w:name = 'Forest'").2 = (second.query "cards w:name = 'Forest'").2 ∧
      (first.query "copies").2 = (third.query "copies").2 := by
  intro cards
  obtain ⟨catalog, reflected⟩ :=
    Databases.exists_catalog_opened ⟨cards "Forest", cards "Island"⟩
  obtain ⟨withoutCopies, reflectedSecond⟩ :=
    Databases.exists_catalog_opened ⟨cards "Forest", .empty⟩
  obtain ⟨withoutCards, reflectedThird⟩ :=
    Databases.exists_catalog_opened ⟨.empty, cards "Island"⟩
  have opened {databases : Databases Handle} {catalog : Catalog}
      (reflected : databases.catalog.result = .ok catalog) :
      (⟨databases, catalog, .standard, .empty, .memory, .memory⟩ : Session Handle).Reachable :=
    .opened (result_ofDatabases_eq_ok_iff.mpr ⟨catalog, reflected, rfl⟩)
  refine ⟨_, _, _, opened reflected, opened reflectedSecond, opened reflectedThird, rfl, rfl, rfl,
    ?_, ?_⟩
  · exact ((query_ignores_other_database (opened reflected) (opened reflectedSecond) _).1 rfl
      ⟨.card, by decide⟩).query rfl
  · exact ((query_ignores_other_database (opened reflected) (opened reflectedThird) _).2 rfl
      (by intro entry; cases entry <;> decide)).query rfl

end Session

end CardShell
