import CardShell.Proofs.Session.Routing
import Mathlib.Data.List.Nodup

/-!
# What becomes of listed tables

Every listed table of two databases becomes an entity of their catalog or gives a notice,
and none does both.  The card tables of the primary database and the other tables of the
secondary one become entities; no two of these have the same name, so none of them takes
the place of another.
-/

namespace CardShell

/-! ## Names -/

namespace CardTable

/-- The names of the tables of the card catalog. -/
def tables : List String :=
  all.map table

theorem mem_tables_iff {name : String} : name ∈ tables ↔ Side.ofEntity name = .primary := by
  rw [Side.ofEntity_eq_primary_iff, tables, List.mem_map]
  constructor
  · rintro ⟨entry, -, rfl⟩
    exact ⟨entry, rfl⟩
  · rintro ⟨entry, rfl⟩
    exact ⟨entry, mem_all entry, rfl⟩

theorem not_mem_tables_iff {name : String} : name ∉ tables ↔ Side.ofEntity name = .secondary := by
  rw [mem_tables_iff]
  cases Side.ofEntity name <;> simp

/-- A name in small and capital letters that is not the name of a card table as it stands
is not the name of another one either. -/
theorem not_mem_tables_of_toLower {name : String} {entry : CardTable}
    (other : name ≠ entry.table) (sameLetters : name.toLower = entry.table) :
    name ∉ tables := by
  intro member
  obtain ⟨found, -, rfl⟩ := List.mem_map.mp member
  have lower : found.table.toLower = found.table := by
    cases found <;> decide +kernel
  exact other (lower.symm.trans sameLetters)

end CardTable

/-- The names in a listing. -/
def SchemaItem.names (items : List SchemaItem) : List String :=
  items.map SchemaItem.name

/-- No two listed tables of a database have the same name. -/
theorem Database.nodup_names_listed (database : Database) :
    (SchemaItem.names (Engine.listed database.schemaItems)).Nodup := by
  have sorted := (List.mergeSort_perm (database.schemaItems.filter fun item =>
      item.kind == .table && !Engine.isInternal item.name)
    (fun left right => Text.compareText left.name right.name != .gt)).map SchemaItem.name
  have views : (database.views.map fun view => (⟨.view, view.name, []⟩ : SchemaItem)).filter
      (fun item => item.kind == .table && !Engine.isInternal item.name) = [] := by
    rw [List.filter_eq_nil_iff]
    intro item member
    obtain ⟨view, -, rfl⟩ := List.mem_map.mp member
    simp
  rw [SchemaItem.names, Engine.listed, sorted.nodup_iff, schemaItems, List.filter_append, views,
    List.append_nil]
  refine (List.filter_sublist.map SchemaItem.name).nodup ?_
  rw [List.map_map]
  exact database.distinct

namespace Databases

/-! ## Two listings -/

/-- The entities that two listings give, in the order in which they are inserted. -/
def lent (primary secondary : List SchemaItem) : List Entity :=
  (divide .primary primary).2 ++ (divide .secondary secondary).2

/-- The notices that two listings give. -/
def noticed (primary secondary : List SchemaItem) : List Notice :=
  (divide .primary primary).1 ++ (divide .secondary secondary).1

theorem names_divide (side : Side) (items : List SchemaItem) :
    (divide side items).2.map Entity.name =
      (SchemaItem.names items).filter fun name => Side.ofEntity name == side := by
  rw [divide, SchemaItem.names, List.filter_map, List.map_map]
  rfl

theorem notices_divide (side : Side) (items : List SchemaItem) :
    (divide side items).1 =
      ((SchemaItem.names items).filter fun name => Side.ofEntity name != side).map
        (misplaced side) := by
  rw [divide, SchemaItem.names, List.filter_map, List.map_map]
  rfl

/-- The names of the entities are those of the card tables on the primary side and of all
other tables on the secondary side. -/
theorem names_lent (primary secondary : List SchemaItem) :
    (lent primary secondary).map Entity.name =
      (SchemaItem.names primary).filter (· ∈ CardTable.tables) ++
        (SchemaItem.names secondary).filter (· ∉ CardTable.tables) := by
  rw [lent, List.map_append, names_divide, names_divide]
  congr 1
  · apply List.filter_congr
    intro name _
    rw [Bool.eq_iff_iff, beq_iff_eq, decide_eq_true_iff, CardTable.mem_tables_iff]
  · apply List.filter_congr
    intro name _
    rw [Bool.eq_iff_iff, beq_iff_eq, decide_eq_true_iff, CardTable.not_mem_tables_iff]

/-- The notices are about the other tables on the primary side and then about the card
tables on the secondary side. -/
theorem noticed_eq (primary secondary : List SchemaItem) :
    noticed primary secondary =
      ((SchemaItem.names primary).filter (· ∉ CardTable.tables)).map .outsideCatalog ++
        ((SchemaItem.names secondary).filter (· ∈ CardTable.tables)).map .shadowsCatalog := by
  rw [noticed, notices_divide, notices_divide]
  congr 2
  · apply List.filter_congr
    intro name _
    rw [Bool.eq_iff_iff, bne_iff_ne, decide_eq_true_iff, CardTable.mem_tables_iff]
  · apply List.filter_congr
    intro name _
    rw [Bool.eq_iff_iff, bne_iff_ne, decide_eq_true_iff, ← not_iff_not, ne_eq, not_not,
      CardTable.not_mem_tables_iff]

/-- The entities have different names if the tables of each listing have. -/
theorem nodup_names_lent {primary secondary : List SchemaItem}
    (first : (SchemaItem.names primary).Nodup) (second : (SchemaItem.names secondary).Nodup) :
    ((lent primary secondary).map Entity.name).Nodup := by
  rw [names_lent]
  apply List.Nodup.append (first.filter _) (second.filter _)
  intro name card other
  have member : name ∈ CardTable.tables := by simpa using (List.mem_filter.mp card).2
  have apart : name ∉ CardTable.tables := by simpa using (List.mem_filter.mp other).2
  exact apart member

/-- A card table on the secondary side gives a notice, and no entity. -/
theorem shadowsCatalog_mem_noticed {primary secondary : List SchemaItem} {name : String}
    (listed : name ∈ SchemaItem.names secondary) (card : name ∈ CardTable.tables) :
    .shadowsCatalog name ∈ noticed primary secondary ∧
      (name ∉ SchemaItem.names primary →
        name ∉ (lent primary secondary).map Entity.name) := by
  constructor
  · rw [noticed_eq]
    apply List.mem_append_right
    exact List.mem_map_of_mem (List.mem_filter.mpr ⟨listed, decide_eq_true card⟩)
  · intro missing
    rw [names_lent]
    simp [missing, card]

/-- Any other table on the primary side gives a notice, and no entity. -/
theorem outsideCatalog_mem_noticed {primary secondary : List SchemaItem} {name : String}
    (listed : name ∈ SchemaItem.names primary) (other : name ∉ CardTable.tables) :
    .outsideCatalog name ∈ noticed primary secondary ∧
      (name ∉ SchemaItem.names secondary →
        name ∉ (lent primary secondary).map Entity.name) := by
  constructor
  · rw [noticed_eq]
    apply List.mem_append_left
    exact List.mem_map_of_mem (List.mem_filter.mpr ⟨listed, decide_eq_true other⟩)
  · intro missing
    rw [names_lent]
    simp [missing, other]

/-- A listed table gives either an entity or a notice. -/
theorem length_divide (side : Side) (items : List SchemaItem) :
    (divide side items).2.length + (divide side items).1.length = items.length := by
  rw [divide, List.length_map, List.length_map]
  exact (List.length_eq_length_filter_add
    fun item : SchemaItem => Side.ofEntity item.name == side).symm

theorem length_lent_add_length_noticed (primary secondary : List SchemaItem) :
    (lent primary secondary).length + (noticed primary secondary).length =
      primary.length + secondary.length := by
  have first := length_divide .primary primary
  have second := length_divide .secondary secondary
  rw [lent, noticed, List.length_append, List.length_append]
  omega

/-! ## The catalog -/

/-- Databases that list their tables have a catalog. -/
theorem catalog_eq {δ : Type} [Engine δ] {databases : Databases δ}
    {primary secondary : List SchemaItem}
    (first : Engine.tables databases.primary = .ok primary)
    (second : Engine.tables databases.secondary = .ok secondary) :
    databases.catalog =
      ⟨noticed primary secondary,
        .ok ((lent primary secondary).foldl Catalog.insert .empty)⟩ := by
  have primaryLent : databases.lend .primary =
      ⟨(divide .primary primary).1, .ok (divide .primary primary).2⟩ := by
    rw [lend, on, first]
  have secondaryLent : databases.lend .secondary =
      ⟨(divide .secondary secondary).1, .ok (divide .secondary secondary).2⟩ := by
    rw [lend, on, second]
  rw [catalog, primaryLent, secondaryLent]
  rfl

/-- Every listed table of two databases is accounted for once.  There is a notice for each
table of the primary database that is no card table and then one for each table of the
secondary database that has the name of one, both in the order of the listings, and the
other tables make up the catalog.  No entity is inserted under a name that the catalog has
already.  So a table of the secondary database with the name of a card table is left out
also when the primary database has no such table, and so is a table of the primary database
whose name differs from that of a card table in capital letters alone. -/
theorem listed_tables_are_accounted_for (contents : Databases Database) :
    ∃ primary secondary catalog,
      Engine.tables contents.opened.primary = .ok primary ∧
      Engine.tables contents.opened.secondary = .ok secondary ∧
      contents.opened.catalog =
        ⟨((SchemaItem.names primary).filter (· ∉ CardTable.tables)).map .outsideCatalog ++
            ((SchemaItem.names secondary).filter (· ∈ CardTable.tables)).map .shadowsCatalog,
          .ok catalog⟩ ∧
      catalog.names.Perm
        ((SchemaItem.names primary).filter (· ∈ CardTable.tables) ++
          (SchemaItem.names secondary).filter (· ∉ CardTable.tables)) ∧
      catalog.names.Nodup ∧
      catalog = (lent primary secondary).foldl Catalog.insert .empty ∧
      (∀ before entity after, lent primary secondary = before ++ entity :: after →
        (before.foldl Catalog.insert .empty).find? entity.name = none) ∧
      catalog.size + contents.opened.catalog.notices.length =
        primary.length + secondary.length ∧
      (∀ name ∈ SchemaItem.names secondary, name ∈ CardTable.tables →
        .shadowsCatalog name ∈ contents.opened.catalog.notices ∧
          (name ∉ SchemaItem.names primary → name ∉ catalog.names)) ∧
      ∀ name ∈ SchemaItem.names primary, ∀ entry : CardTable, name ≠ entry.table →
        name.toLower = entry.table →
          .outsideCatalog name ∈ contents.opened.catalog.notices ∧
            (name ∉ SchemaItem.names secondary → name ∉ catalog.names) := by
  have first := contents.primary.tables_handle
  have second := contents.secondary.tables_handle
  have distinct := nodup_names_lent contents.primary.nodup_names_listed
    contents.secondary.nodup_names_listed
  generalize Engine.listed contents.primary.schemaItems = primary at first distinct
  generalize Engine.listed contents.secondary.schemaItems = secondary at second distinct
  have reflected : contents.opened.catalog = ⟨_, .ok _⟩ := catalog_eq first second
  have kept := Catalog.perm_foldl_insert_empty distinct
  have names := kept.map Entity.name
  have unlisted : ∀ name, name ∉ (lent primary secondary).map Entity.name →
      name ∉ ((lent primary secondary).foldl Catalog.insert .empty).names := fun name missing =>
    (names.mem_iff (a := name)).not.mpr missing
  refine ⟨primary, secondary, _, first, second, noticed_eq primary secondary ▸ reflected,
    names_lent primary secondary ▸ names, ?_, rfl, ?_, ?_, ?_, ?_⟩
  · exact names.nodup_iff.mpr distinct
  · intro before entity after shape
    exact Catalog.find?_foldl_insert_of_nodup (shape ▸ distinct)
  · rw [reflected, Catalog.size, kept.length_eq]
    exact length_lent_add_length_noticed primary secondary
  · intro name listed card
    rcases shadowsCatalog_mem_noticed listed card with ⟨noted, left⟩
    rw [reflected]
    exact ⟨noted, fun missing => unlisted name (left missing)⟩
  · intro name listed entry other sameLetters
    have apart := CardTable.not_mem_tables_of_toLower other sameLetters
    rcases outsideCatalog_mem_noticed listed apart with ⟨noted, left⟩
    rw [reflected]
    exact ⟨noted, fun missing => unlisted name (left missing)⟩

/-- A table `Sets` is not the card table, and the inventory does not stand in for the card
table that is missing. -/
theorem sets_in_other_letters_are_left_out :
    let contents : Databases Database :=
      ⟨.ofTables [⟨"prices", [], []⟩, ⟨"cards", [⟨"id", .integer⟩], []⟩, ⟨"Sets", [], []⟩]
          [⟨"foils"⟩],
        .ofTables [⟨"sets", [], []⟩, ⟨"copies", [⟨"id", .integer⟩], []⟩, ⟨"cards", [], []⟩] []⟩
    ∃ catalog,
      contents.opened.catalog =
        ⟨[.outsideCatalog "Sets", .outsideCatalog "prices", .shadowsCatalog "cards",
          .shadowsCatalog "sets"], .ok catalog⟩ ∧
      catalog.names.Perm ["cards", "copies"] ∧ "sets" ∉ catalog.names ∧
      "Sets" ∉ catalog.names ∧ catalog.size + 4 = 3 + 3 := by
  intro contents
  have primaryListed : Engine.tables contents.opened.primary =
      .ok [⟨.table, "Sets", []⟩, ⟨.table, "cards", ["id"]⟩, ⟨.table, "prices", []⟩] := by
    cbv
  have secondaryListed : Engine.tables contents.opened.secondary =
      .ok [⟨.table, "cards", []⟩, ⟨.table, "copies", ["id"]⟩, ⟨.table, "sets", []⟩] := by
    cbv
  obtain ⟨primary, secondary, catalog, first, second, reflected, names, -, -, -, count, shadowed,
    outside⟩ := listed_tables_are_accounted_for contents
  obtain rfl := Except.ok.inj (primaryListed.symm.trans first)
  obtain rfl := Except.ok.inj (secondaryListed.symm.trans second)
  have missing := (shadowed "sets" (by decide) (by decide)).2 (by decide)
  have other := (outside "Sets" (by decide) .set (by decide) (by decide +kernel)).2 (by decide)
  rw [reflected] at count
  exact ⟨catalog, reflected, names, missing, other, count⟩

end Databases

end CardShell
