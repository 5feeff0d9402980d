import CardShell.Proofs.Session.Isolation

/-!
# What the name of a model stands for

The name of a model stands for its table as long as the secondary database lists no
table of that very name.  Where it does, that table is an entity too, an entity comes
before a model of the same name, and what is asked of the model is answered by the
secondary database.
-/

namespace CardShell

namespace CardTable

/-- No model has the name of a table. -/
theorem model_ne_table (first second : CardTable) : first.model ≠ second.table := by
  cases first <;> cases second <;> decide

theorem ofTable?_model (entry : CardTable) : ofTable? entry.model = none := by
  cases found : ofTable? entry.model with
  | none => rfl
  | some other => exact absurd (ofTable?_eq_some_iff.mp found) (model_ne_table entry other)

theorem ofModel?_table (entry : CardTable) : ofModel? entry.table = none := by
  cases found : ofModel? entry.table with
  | none => rfl
  | some other => exact absurd (ofModel?_eq_some_iff.mp found).symm (model_ne_table other entry)

/-- A table of the card catalog is primary, and a table with the name of a model is not. -/
theorem side_table (entry : CardTable) : Side.ofEntity entry.table = .primary :=
  Side.ofEntity_eq_primary_iff.mpr ⟨entry, rfl⟩

theorem side_model (entry : CardTable) : Side.ofEntity entry.model = .secondary := by
  rw [Side.ofEntity, ofTable?_model]
  rfl

end CardTable

namespace Catalog

/-- The name of a table is understood as nothing but the table. -/
theorem get?_table (catalog : Catalog) (entry : CardTable) :
    catalog.get? entry.table = catalog.find? entry.table := by
  rw [get?, CardTable.ofModel?_table]
  exact Option.or_none

/-- The name of a model is understood as an entity of that name first. -/
theorem get?_model (catalog : Catalog) (entry : CardTable) :
    catalog.get? entry.model = (catalog.find? entry.model).or (catalog.find? entry.table) := by
  rw [get?, CardTable.ofModel?_model]
  rfl

/-- What is selected under a name is the entity that the name stands for. -/
theorem select_eq_ok_iff {catalog : Catalog} {name : String} {clauses : List Clause}
    {selection : Selection} :
    catalog.select name clauses = .ok selection ↔
      ∃ entity, catalog.get? name = some entity ∧
        selection = (Selection.all entity).addAll clauses := by
  rw [select]
  cases catalog.get? name with
  | none => simp
  | some entity => simp [eq_comm]

theorem get?_of_select {catalog : Catalog} {name : String} {clauses : List Clause}
    {selection : Selection} (selected : catalog.select name clauses = .ok selection) :
    catalog.get? name = some selection.entity := by
  obtain ⟨entity, known, rfl⟩ := select_eq_ok_iff.mp selected
  rw [known, Selection.entity_addAll]
  rfl

end Catalog

namespace Databases

variable {δ : Type} [Engine δ]

/-- The database of a side lists a table of a name. -/
def Lists (databases : Databases δ) (side : Side) (name : String) : Prop :=
  ∃ items, Engine.tables (databases.on side) = .ok items ∧ ∃ item ∈ items, item.name = name

variable {databases : Databases δ} {catalog : Catalog}

/-- A catalog has an entity of a name exactly when the database on the side of the name
lists a table of it. -/
theorem isSome_find?_iff (reflected : databases.catalog.result = .ok catalog) {name : String} :
    (catalog.find? name).isSome ↔ databases.Lists (Side.ofEntity name) name := by
  obtain ⟨items, tables, found⟩ := exists_tables_find? reflected name
  rw [found, List.find?_isSome]
  constructor
  · rintro ⟨entity, member, same⟩
    obtain ⟨-, item, present, named, -⟩ := mem_divide_iff.mp (List.mem_reverse.mp member)
    exact ⟨items, tables, item, present, named.trans (eq_of_beq same)⟩
  · rintro ⟨others, otherTables, item, present, named⟩
    obtain rfl : items = others := Except.ok.inj (tables.symm.trans otherTables)
    have lent : (⟨name, item.columns⟩ : Entity) ∈ (divide (Side.ofEntity name) items).2 :=
      mem_divide_iff.mpr ⟨rfl, item, present, named, rfl⟩
    exact ⟨⟨name, item.columns⟩, List.mem_reverse.mpr lent, beq_self_eq_true name⟩

/-! ## Finding by model -/

theorem get?_model_of_not_lists (reflected : databases.catalog.result = .ok catalog)
    {entry : CardTable} (free : ¬ databases.Lists .secondary entry.model) :
    catalog.get? entry.model = catalog.get? entry.table := by
  have missing : catalog.find? entry.model = none := by
    rw [← entry.side_model, ← isSome_find?_iff reflected] at free
    exact Option.not_isSome_iff_eq_none.mp free
  rw [catalog.get?_model, catalog.get?_table, missing, Option.none_or]

theorem get?_model_of_lists (reflected : databases.catalog.result = .ok catalog)
    {entry : CardTable} (taken : databases.Lists .secondary entry.model) :
    ∃ entity, catalog.get? entry.model = some entity ∧ entity.name = entry.model := by
  rw [← entry.side_model, ← isSome_find?_iff reflected] at taken
  obtain ⟨entity, found⟩ := Option.isSome_iff_exists.mp taken
  refine ⟨entity, ?_, Catalog.name_of_find? found⟩
  rw [catalog.get?_model, found, Option.some_or]

/-! ## Selecting by model -/

omit [Engine δ] in
/-- What is selected under a name is bound to the side of the entity that the name stands
for. -/
theorem side_bind_of_select (databases : Databases δ) {entity : Entity} {name : String}
    {clauses : List Clause} {selection : Selection} (known : catalog.get? name = some entity)
    (selected : catalog.select name clauses = .ok selection) :
    selection.entity = entity ∧ (databases.bind selection).side = entity.side := by
  have same : selection.entity = entity :=
    Option.some.inj ((Catalog.get?_of_select selected).symm.trans known)
  exact ⟨same, congrArg Entity.side same⟩

/-- A model and its table stand for the same entity exactly when the secondary database
lists no table with the name of the model.  In that case the same is selected by either
name, and whatever is selected by the name of the table is bound to the primary database.
Otherwise every selection by model is one of the other table and bound to the secondary
database. -/
theorem model_stands_for_table_iff (reflected : databases.catalog.result = .ok catalog)
    (entry : CardTable) :
    (catalog.get? entry.model = catalog.get? entry.table ↔
      ¬ databases.Lists .secondary entry.model) ∧
    (¬ databases.Lists .secondary entry.model → ∀ clauses selection,
      catalog.select entry.model clauses = .ok selection ↔
        catalog.select entry.table clauses = .ok selection) ∧
    (∀ clauses selection, catalog.select entry.table clauses = .ok selection →
      selection.entity.name = entry.table ∧ (databases.bind selection).side = .primary) ∧
    (databases.Lists .secondary entry.model → ∀ clauses, ∃ selection,
      catalog.select entry.model clauses = .ok selection ∧
        selection.entity.name = entry.model ∧ (databases.bind selection).side = .secondary) := by
  refine ⟨⟨?_, get?_model_of_not_lists reflected⟩, ?_, ?_, ?_⟩
  · intro same taken
    obtain ⟨entity, found, named⟩ := get?_model_of_lists reflected taken
    rw [found, catalog.get?_table] at same
    exact entry.model_ne_table entry (named.symm.trans (Catalog.name_of_find? same.symm))
  · intro free clauses selection
    rw [Catalog.select_eq_ok_iff, Catalog.select_eq_ok_iff, get?_model_of_not_lists reflected free]
  · intro clauses selection selected
    obtain ⟨entity, known, -⟩ := Catalog.select_eq_ok_iff.mp selected
    obtain ⟨rfl, side⟩ := side_bind_of_select databases known selected
    rw [catalog.get?_table] at known
    have named := Catalog.name_of_find? known
    exact ⟨named, by rw [side, Entity.side, named, entry.side_table]⟩
  · intro taken clauses
    obtain ⟨entity, known, named⟩ := get?_model_of_lists reflected taken
    have selected : catalog.select entry.model clauses =
        .ok ((Selection.all entity).addAll clauses) :=
      Catalog.select_eq_ok_iff.mpr ⟨entity, known, rfl⟩
    obtain ⟨same, side⟩ := side_bind_of_select databases known selected
    exact ⟨_, selected, by rw [same, named],
      by rw [side, Entity.side, named, entry.side_model]⟩

/-- Next to a table of the inventory that is called `Token`, cards are found by their
model and tokens are not. -/
theorem tokens_of_inventory :
    let contents : Databases Database :=
      ⟨.ofTables [⟨"cards", [⟨"name", .text⟩], []⟩, ⟨"tokens", [⟨"name", .text⟩], []⟩] [],
        .ofTables [⟨"Token", [⟨"owner", .text⟩], []⟩] []⟩
    ∃ catalog, contents.opened.catalog.result = .ok catalog ∧
      ¬ contents.opened.Lists .secondary "Card" ∧ contents.opened.Lists .secondary "Token" ∧
      catalog.get? "Card" = catalog.get? "cards" ∧ catalog.get? "Token" ≠ catalog.get? "tokens" ∧
      ∃ selection, catalog.select "Token" [] = .ok selection ∧
        (contents.opened.bind selection).side = .secondary := by
  intro contents
  obtain ⟨catalog, reflected⟩ := contents.exists_catalog_opened
  have listed : Engine.tables (contents.opened.on .secondary) =
      .ok [⟨.table, "Token", ["owner"]⟩] := by
    cbv
  have free : ¬ contents.opened.Lists .secondary "Card" := by
    rintro ⟨items, tables, item, present, named⟩
    obtain rfl := Except.ok.inj (listed.symm.trans tables)
    obtain rfl := List.mem_singleton.mp present
    exact absurd named (by decide)
  have taken : contents.opened.Lists .secondary "Token" :=
    ⟨_, listed, _, List.mem_singleton_self _, rfl⟩
  have cards := model_stands_for_table_iff reflected .card
  have tokens := model_stands_for_table_iff reflected .token
  obtain ⟨selection, selected, -, side⟩ := tokens.2.2.2 taken []
  exact ⟨catalog, reflected, free, taken, cards.1.mpr free,
    fun same => tokens.1.mp same taken, selection, selected, side⟩

/-- A table of the inventory that is called `Card` hides the cards from their model. -/
theorem inventory_hides_cards :
    let contents : Databases Database :=
      ⟨.ofTables
          [⟨"cards", [⟨"id", .integer⟩, ⟨"name", .text⟩], [[.integer 1, .text "Grizzly Bears"]]⟩]
          [],
        .ofTables [⟨"Card", [⟨"owner", .text⟩], [[.text "me"]]⟩] []⟩
    ∃ catalog, contents.opened.catalog.result = .ok catalog ∧
      catalog.get? CardTable.card.model = some ⟨"Card", ["owner"]⟩ ∧
      catalog.get? CardTable.card.table = some ⟨"cards", ["id", "name"]⟩ ∧
      catalog.get? CardTable.card.model ≠ catalog.get? CardTable.card.table ∧
      (contents.opened.bind (.all ⟨"Card", ["owner"]⟩)).side = .secondary := by
  intro contents
  have known : contents.opened.catalog.result.toOption =
      some ⟨[⟨"Card", ["owner"]⟩, ⟨"cards", ["id", "name"]⟩]⟩ := by
    cbv
  obtain ⟨catalog, reflected⟩ := contents.exists_catalog_opened
  rw [reflected] at known
  obtain rfl := Option.some.inj known
  exact ⟨_, reflected, by decide, by decide, by decide, by decide⟩

end Databases

end CardShell
