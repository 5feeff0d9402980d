import CardShell.Proofs.Session.Models
import CardShell.Proofs.Session.Reflection

/-!
# Which tables a listing leaves out

The names that start with `sqlite_` are reserved for the engine.  The pattern that keeps
them from listings has an underscore in this place, which stands for any one character, so
it also covers names that go on behind `sqlite` in another way.  A listing holds all other
tables in the byte order of their names, and a table of the inventory that is left out is
no entity either.
-/

namespace CardShell

/-! ## Patterns -/

namespace Sql

/-- Characters that are neither `%` nor `_` stand for themselves, ASCII letters in either
case. -/
theorem like_append_iff {word pattern text : List Char}
    (plain : ∀ character ∈ word, character ≠ '%' ∧ character ≠ '_') :
    like (word ++ pattern) text = true ↔
      ∃ start rest, text = start ++ rest ∧ start.map Char.toLower = word.map Char.toLower ∧
        like pattern rest = true := by
  induction word generalizing text with
  | nil => simp
  | cons character word shorter =>
      obtain ⟨⟨notPercent, notUnderscore⟩, others⟩ := List.forall_mem_cons.mp plain
      cases text with
      | nil => simp [like]
      | cons first rest =>
          have stepped : like (character :: (word ++ pattern)) (first :: rest) =
              (character.toLower == first.toLower && like (word ++ pattern) rest) := by
            rw [like]
            · exact notPercent
            · exact notUnderscore
          rw [List.cons_append, stepped, Bool.and_eq_true, beq_iff_eq, shorter others]
          constructor
          · rintro ⟨same, start, later, rfl, covered, found⟩
            refine ⟨first :: start, later, rfl, ?_, found⟩
            rw [List.map_cons, List.map_cons, same, covered]
          · rintro ⟨start, later, shape, covered, found⟩
            cases start with
            | nil => simp at covered
            | cons other start =>
                rw [List.cons_append, List.cons.injEq] at shape
                rw [List.map_cons, List.map_cons, List.cons.injEq] at covered
                obtain ⟨rfl, rfl⟩ := shape
                exact ⟨covered.1.symm, start, later, rfl, covered.2, found⟩

theorem like_underscore_iff {pattern text : List Char} :
    like ('_' :: pattern) text = true ↔
      ∃ first rest, text = first :: rest ∧ like pattern rest = true := by
  cases text <;> simp [like]

theorem like_percent (text : List Char) : like ['%'] text = true :=
  like_percent_iff.mpr ⟨text, [], (List.append_nil text).symm, rfl⟩

end Sql

/-! ## Names -/

namespace Engine

/-- The characters of a name without regard to the case of ASCII letters. -/
def letters (name : String) : List Char :=
  name.toList.map Char.toLower

/-- A name that is reserved for the engine. -/
def Reserved (name : String) : Prop :=
  "sqlite_".toList <+: letters name

/-- A name that has some other character where reserved names have their underscore. -/
def Lookalike (name : String) : Prop :=
  ∃ next rest, letters name = "sqlite".toList ++ next :: rest ∧ next ≠ '_'

theorem reserved_iff {name : String} :
    Reserved name ↔ ∃ rest, letters name = "sqlite".toList ++ '_' :: rest :=
  ⟨fun ⟨rest, shape⟩ => ⟨rest, shape.symm⟩, fun ⟨rest, shape⟩ => ⟨rest, shape.symm⟩⟩

theorem Lookalike.not_reserved {name : String} (lookalike : Lookalike name) :
    ¬ Reserved name := by
  obtain ⟨next, rest, shape, other⟩ := lookalike
  rw [reserved_iff]
  rintro ⟨later, reserved⟩
  rw [shape, List.append_cancel_left_eq, List.cons.injEq] at reserved
  exact other reserved.1

/-- Kept from listings are the names that go on behind `sqlite`. -/
theorem isInternal_iff {name : String} :
    isInternal name = true ↔ ∃ next rest, letters name = "sqlite".toList ++ next :: rest := by
  have plain : ∀ character ∈ "sqlite".toList, character ≠ '%' ∧ character ≠ '_' := by
    simp
  have pattern : internalPattern = "sqlite".toList ++ '_' :: ['%'] :=
    rfl
  have lower : "sqlite".toList.map Char.toLower = "sqlite".toList := by
    decide
  rw [isInternal, pattern, Sql.like_append_iff plain, lower, letters]
  -- the underscore takes the character behind the word, whatever it is, and `%` the rest
  constructor
  · rintro ⟨start, rest, shape, covered, found⟩
    obtain ⟨next, later, rfl, -⟩ := Sql.like_underscore_iff.mp found
    refine ⟨next.toLower, later.map Char.toLower, ?_⟩
    rw [shape, List.map_append, covered]
    rfl
  · rintro ⟨next, rest, shape⟩
    obtain ⟨start, behind, split, covered, followed⟩ := List.map_eq_append_iff.mp shape
    obtain ⟨first, later, rfl, -, -⟩ := List.map_eq_cons_iff.mp followed
    exact ⟨start, first :: later, split, covered,
      Sql.like_underscore_iff.mpr ⟨first, later, rfl, Sql.like_percent later⟩⟩

/-- A name is kept from listings if it is reserved or looks like it. -/
theorem isInternal_eq_false_iff {name : String} :
    isInternal name = false ↔ ¬ Reserved name ∧ ¬ Lookalike name := by
  rw [← Bool.not_eq_true, isInternal_iff, ← not_or, not_iff_not, reserved_iff, Lookalike]
  constructor
  · rintro ⟨next, rest, shape⟩
    by_cases underscore : next = '_'
    · exact .inl ⟨rest, underscore ▸ shape⟩
    · exact .inr ⟨next, rest, shape, underscore⟩
  · rintro (⟨rest, shape⟩ | ⟨next, rest, shape, -⟩)
    · exact ⟨'_', rest, shape⟩
    · exact ⟨next, rest, shape⟩

/-! ## Listings -/

/-- Everything that is listed is a table, so its name and its columns tell it. -/
theorem exists_mem_listed_iff {items : List SchemaItem} {name : String} {columns : List String} :
    (∃ item ∈ listed items, item.name = name ∧ item.columns = columns) ↔
      ⟨.table, name, columns⟩ ∈ listed items := by
  constructor
  · rintro ⟨item, member, rfl, rfl⟩
    rwa [← (mem_listed_iff.mp member).2.1]
  · intro member
    exact ⟨_, member, rfl, rfl⟩

/-- A listing is in the byte order of the names. -/
theorem pairwise_listed (items : List SchemaItem) :
    (listed items).Pairwise fun left right =>
      (Text.compareText left.name right.name).isLE = true := by
  have atMost : ∀ left right : SchemaItem,
      (Text.compareText left.name right.name != .gt) = true ↔
        (Text.compareText left.name right.name).isLE = true := fun left right => by
    rw [bne_iff_ne, ne_eq, Ordering.ne_gt_iff_isLE]
  apply (List.pairwise_mergeSort _ _ _).imp (atMost _ _).mp
  · intro first second third lower upper
    rw [atMost] at lower upper ⊢
    exact Std.TransCmp.isLE_trans lower upper
  · intro left right
    rw [Bool.or_eq_true, atMost, atMost, ← Std.OrientedCmp.isGE_iff_isLE (a := left.name)]
    cases Text.compareText left.name right.name <;> decide

/-- Where no name is listed twice, the names increase strictly. -/
theorem pairwise_names_listed {items : List SchemaItem}
    (distinct : (SchemaItem.names (listed items)).Nodup) :
    (SchemaItem.names (listed items)).Pairwise fun left right =>
      Text.compareText left right = .lt := by
  apply List.pairwise_map.mpr
  apply ((pairwise_listed items).and (List.pairwise_map.mp distinct)).imp
  rintro left right ⟨ordered, apart⟩
  cases order : Text.compareText left.name right.name with
  | lt => rfl
  | eq => exact absurd (Text.compareText_eq_eq_iff.mp order) apart
  | gt =>
      rw [order] at ordered
      contradiction

end Engine

/-! ## Databases -/

namespace Database

/-- A database has a table of a name that is not one of the engine's own. -/
def HasUserTable (database : Database) (name : String) : Prop :=
  ¬ Engine.Reserved name ∧ ∃ table ∈ database.tables, table.name = name

/-- What is listed of a database are its tables, views not among them, except for those
with reserved names and names that look like these. -/
theorem mem_listed_iff {database : Database} {item : SchemaItem} :
    item ∈ Engine.listed database.schemaItems ↔
      ∃ table ∈ database.tables, item = ⟨.table, table.name, table.columnNames⟩ ∧
        ¬ Engine.Reserved table.name ∧ ¬ Engine.Lookalike table.name := by
  rw [Engine.mem_listed_iff, Engine.isInternal_eq_false_iff]
  constructor
  · rintro ⟨stored, kind, visible⟩
    obtain ⟨table, member, named, columns⟩ := exists_table_of_mem_schemaItems stored kind
    refine ⟨table, member, ?_, named ▸ visible⟩
    rw [named, columns, ← kind]
  · rintro ⟨table, member, rfl, visible⟩
    exact ⟨List.mem_append_left _ (List.mem_map_of_mem member), rfl, visible⟩

theorem mem_names_listed_iff {database : Database} {name : String} :
    name ∈ SchemaItem.names (Engine.listed database.schemaItems) ↔
      database.HasUserTable name ∧ ¬ Engine.Lookalike name := by
  rw [SchemaItem.names, List.mem_map]
  constructor
  · rintro ⟨item, listed, rfl⟩
    obtain ⟨table, member, rfl, free, plain⟩ := mem_listed_iff.mp listed
    exact ⟨⟨free, table, member, rfl⟩, plain⟩
  · rintro ⟨⟨free, table, member, rfl⟩, plain⟩
    exact ⟨_, mem_listed_iff.mpr ⟨table, member, rfl, free, plain⟩, rfl⟩

/-- A listing has the names of all tables but the engine's own exactly if no table looks
like these. -/
theorem forall_mem_names_listed_iff {database : Database} :
    (∀ name, name ∈ SchemaItem.names (Engine.listed database.schemaItems) ↔
      database.HasUserTable name) ↔
      ∀ table ∈ database.tables, ¬ Engine.Lookalike table.name := by
  constructor
  · intro complete table member lookalike
    have listed := (complete table.name).mpr ⟨lookalike.not_reserved, table, member, rfl⟩
    exact (mem_names_listed_iff.mp listed).2 lookalike
  · intro plain name
    rw [mem_names_listed_iff]
    refine and_iff_left_of_imp ?_
    rintro ⟨-, table, member, rfl⟩
    exact plain table member

end Database

/-- No model looks like a table of the engine. -/
theorem CardTable.not_lookalike_model (entry : CardTable) : ¬ Engine.Lookalike entry.model := by
  have visible : Engine.isInternal entry.model = false := by
    cases entry <;> rfl
  exact (Engine.isInternal_eq_false_iff.mp visible).2

namespace Databases

/-- The entities of two databases are the listed tables, each from the database on the side
of its name. -/
theorem mem_catalog_iff {contents : Databases Database} {catalog : Catalog}
    (reflected : contents.opened.catalog.result = .ok catalog) {entity : Entity} :
    entity ∈ catalog.entities ↔
      (⟨.table, entity.name, entity.columns⟩ : SchemaItem) ∈
        Engine.listed (contents.on entity.side).schemaItems := by
  obtain ⟨primary, secondary, first, second, rfl⟩ := result_catalog_eq_ok_iff.mp reflected
  obtain rfl := Except.ok.inj (first.symm.trans contents.primary.tables_handle)
  obtain rfl := Except.ok.inj (second.symm.trans contents.secondary.tables_handle)
  have kept := Catalog.perm_foldl_insert_empty
    (nodup_names_lent contents.primary.nodup_names_listed contents.secondary.nodup_names_listed)
  apply (kept.mem_iff.trans List.mem_append).trans
  rw [mem_divide_iff, mem_divide_iff, Engine.exists_mem_listed_iff, Engine.exists_mem_listed_iff]
  cases entity.side <;> simp [on]

/-- A name that looks like one of the engine stands for nothing. -/
theorem get?_eq_none_of_lookalike {contents : Databases Database} {catalog : Catalog}
    (reflected : contents.opened.catalog.result = .ok catalog) {name : String}
    (lookalike : Engine.Lookalike name) : catalog.get? name = none := by
  have missing : catalog.find? name = none := by
    cases found : catalog.find? name with
    | none => rfl
    | some entity =>
        obtain ⟨member, rfl⟩ := (ordered_catalog reflected).find?_eq_some_iff.mp found
        obtain ⟨table, -, same, -, plain⟩ :=
          Database.mem_listed_iff.mp ((mem_catalog_iff reflected).mp member)
        rw [(SchemaItem.mk.inj same).2.1] at lookalike
        exact absurd lookalike plain
  have unaliased : CardTable.ofModel? name = none := by
    cases known : CardTable.ofModel? name with
    | none => rfl
    | some entry =>
        rw [CardTable.ofModel?_eq_some_iff.mp known] at lookalike
        exact absurd lookalike (CardTable.not_lookalike_model entry)
  rw [Catalog.get?, missing, unaliased]
  rfl

/-- The listing of each database holds, in strictly increasing byte order, the names of its
tables but for the reserved names and those that look like these.  So it holds the names of
all tables but the engine's own exactly if no table looks like these, and a table of the
inventory with a name that is neither reserved nor that of a card table becomes an entity
exactly if it does not look like a table of the engine; if it does, its name stands for
nothing. -/
theorem listings_leave_out_lookalikes (contents : Databases Database) :
    (∀ side, ∃ items, Engine.tables (contents.opened.on side) = .ok items ∧
      (SchemaItem.names items).Pairwise (fun left right => Text.compareText left right = .lt) ∧
      (∀ item ∈ items, item.kind = .table) ∧
      (∀ name, name ∈ SchemaItem.names items ↔
        (contents.on side).HasUserTable name ∧ ¬ Engine.Lookalike name) ∧
      ((∀ name, name ∈ SchemaItem.names items ↔ (contents.on side).HasUserTable name) ↔
        ∀ table ∈ (contents.on side).tables, ¬ Engine.Lookalike table.name)) ∧
    ∃ catalog, contents.opened.catalog.result = .ok catalog ∧
      ∀ table ∈ contents.secondary.tables, ¬ Engine.Reserved table.name →
        table.name ∉ CardTable.tables →
          (⟨table.name, table.columnNames⟩ ∈ catalog.entities ↔
            ¬ Engine.Lookalike table.name) ∧
          (Engine.Lookalike table.name → catalog.get? table.name = none) := by
  constructor
  · intro side
    refine ⟨Engine.listed (contents.on side).schemaItems, ?_, ?_, ?_, ?_, ?_⟩
    · rw [on_opened, Database.tables_handle]
    · exact Engine.pairwise_names_listed (contents.on side).nodup_names_listed
    · intro item listed
      exact (Engine.mem_listed_iff.mp listed).2.1
    · exact fun _ => Database.mem_names_listed_iff
    · exact Database.forall_mem_names_listed_iff
  · obtain ⟨catalog, reflected⟩ := contents.exists_catalog_opened
    refine ⟨catalog, reflected, ?_⟩
    intro table member free other
    have side : Side.ofEntity table.name = .secondary := CardTable.not_mem_tables_iff.mp other
    refine ⟨?_, get?_eq_none_of_lookalike reflected⟩
    rw [mem_catalog_iff reflected, Entity.side, side, Database.mem_listed_iff]
    constructor
    · rintro ⟨stored, -, same, -, plain⟩
      have named : table.name = stored.name := (SchemaItem.mk.inj same).2.1
      rwa [named]
    · intro plain
      exact ⟨table, member, rfl, free, plain⟩

/-- A table whose name is the first word of the reserved ones is listed, and one whose name
goes on behind it with a digit is not. -/
theorem listing_beside_lookalike :
    let contents : Databases Database :=
      ⟨.ofTables [⟨"cards", [⟨"id", .integer⟩], []⟩] [],
        .ofTables [⟨"SQLite3", [⟨"owner", .text⟩], []⟩, ⟨"sqlite", [⟨"deck", .text⟩], []⟩]
          [⟨"decks"⟩]⟩
    Engine.Lookalike "SQLite3" ∧ ¬ Engine.Lookalike "sqlite" ∧
      ∃ items catalog, Engine.tables contents.opened.secondary = .ok items ∧
        contents.opened.catalog.result = .ok catalog ∧
        "sqlite" ∈ SchemaItem.names items ∧ "SQLite3" ∉ SchemaItem.names items ∧
        ⟨"sqlite", ["deck"]⟩ ∈ catalog.entities ∧ catalog.get? "SQLite3" = none := by
  intro contents
  have lookalike : Engine.Lookalike "SQLite3" := ⟨'3', [], rfl, by decide⟩
  have visible : Engine.isInternal "sqlite" = false := rfl
  obtain ⟨free, plain⟩ := Engine.isInternal_eq_false_iff.mp visible
  have tables : contents.secondary.tables =
      [⟨"SQLite3", [⟨"owner", .text⟩], []⟩, ⟨"sqlite", [⟨"deck", .text⟩], []⟩] := by
    rfl
  have first : (⟨"SQLite3", [⟨"owner", .text⟩], []⟩ : Database.Table) ∈
      contents.secondary.tables := by
    simp [tables]
  have second : (⟨"sqlite", [⟨"deck", .text⟩], []⟩ : Database.Table) ∈
      contents.secondary.tables := by
    simp [tables]
  obtain ⟨listings, catalog, reflected, entities⟩ := listings_leave_out_lookalikes contents
  obtain ⟨items, listed, -, -, names, -⟩ := listings .secondary
  have kept := entities _ second free (by decide)
  have hidden := entities _ first lookalike.not_reserved (by decide)
  exact ⟨lookalike, plain, items, catalog, listed, reflected,
    (names "sqlite").mpr ⟨⟨free, _, second, rfl⟩, plain⟩,
    fun member => ((names "SQLite3").mp member).2 lookalike, kept.1.mpr plain,
    hidden.2 lookalike⟩

/-- A table of an inventory that is called `sqliteX` is not one of the engine's own, and yet
it is not listed, it is no entity, and nothing is said about it. -/
theorem inventory_table_is_hidden :
    let contents : Databases Database :=
      ⟨.empty, .ofTables [⟨"sqliteX", [⟨"owner", .text⟩], [[.text "me"]]⟩] []⟩
    contents.secondary.HasUserTable "sqliteX" ∧ "sqliteX" ∉ CardTable.tables ∧
      ¬ (∀ items, Engine.tables contents.opened.secondary = .ok items →
        ∀ name, contents.secondary.HasUserTable name → name ∈ SchemaItem.names items) ∧
      contents.opened.catalog = ⟨[], .ok ⟨[]⟩⟩ := by
  intro contents
  have lookalike : Engine.Lookalike "sqliteX" := ⟨'x', [], rfl, by decide⟩
  have listed : Engine.tables contents.opened.secondary = .ok [] := by
    cbv
  have user : contents.secondary.HasUserTable "sqliteX" :=
    ⟨lookalike.not_reserved, _, List.mem_singleton_self _, rfl⟩
  refine ⟨user, by decide, ?_, ?_⟩
  · intro complete
    exact absurd (complete [] listed "sqliteX" user) List.not_mem_nil
  · cbv

end Databases
end CardShell
