import CardShell.Proofs.Catalog.Order
import Mathlib.Data.Finset.Card

/-!
# The history of a catalog

However often and in whatever order entities are inserted, a catalog depends on nothing but
the last entity of each name.  These are what it holds, in the byte order of their names,
what an insertion gives back, and what names and models find.
-/

namespace CardShell.Catalog

/-- The last of the entities with a name. -/
def lastNamed (entities : List Entity) (name : String) : Option Entity :=
  (entities.filter fun entity => entity.name == name).getLast?

/-- The catalog after insertions into an empty one. -/
def ofInsertions (entities : List Entity) : Catalog :=
  entities.foldl insert empty

variable {catalog other : Catalog} {entities : List Entity} {entity : Entity} {name : String}

/-! ## Catalogs in order -/

/-- A catalog in order is determined by what names find. -/
theorem Ordered.ext (ordered : catalog.Ordered) (otherOrdered : other.Ordered)
    (same : ∀ name, catalog.find? name = other.find? name) : catalog = other := by
  have member (entity : Entity) : entity ∈ catalog.entities ↔ entity ∈ other.entities := by
    have found : catalog.find? entity.name = some entity ↔ _ := ordered.find?_eq_some_iff
    rw [same, otherOrdered.find?_eq_some_iff] at found
    simpa using found.symm
  have perm : catalog.entities.Perm other.entities :=
    (List.perm_ext_iff_of_nodup ordered.nodup_names.of_map otherOrdered.nodup_names.of_map).mpr
      member
  have equal : catalog.entities = other.entities := by
    refine List.Perm.eq_of_pairwise ?_ ordered otherOrdered perm
    intro first second _ _ before behind
    exact absurd rfl (Precedes.trans before behind).name_ne
  exact congrArg Catalog.mk equal

/-- Nothing in front of which an entity stands has its name. -/
theorem find?_eq_none_of_precedes (before : ∀ other ∈ entities, Precedes entity other) :
    entities.find? (fun other => other.name == entity.name) = none := by
  rw [List.find?_eq_none]
  intro other member same
  exact (before other member).name_ne (eq_of_beq same).symm

/-- What is given back is what the name has found. -/
theorem exchangeIn_eq (ordered : entities.Pairwise Precedes) (entity : Entity) :
    exchangeIn entity entities =
      (entities.find? fun other => other.name == entity.name, place entity entities) := by
  induction entities with
  | nil => rfl
  | cons first rest later =>
      obtain ⟨ahead, behind⟩ := List.pairwise_cons.mp ordered
      rw [exchangeIn, place]
      split
      · rename_i before
        have inFront : ∀ other ∈ first :: rest, Precedes entity other := by
          intro other member
          rcases List.mem_cons.mp member with rfl | member
          · exact before
          · exact Precedes.trans before (ahead other member)
        rw [find?_eq_none_of_precedes inFront]
      · rename_i equal
        have renamed : first.name = entity.name := (Text.compareText_eq_eq_iff.mp equal).symm
        rw [List.find?_cons_of_pos (by simp [renamed])]
      · rename_i after
        have different : first.name ≠ entity.name := by
          intro renamed
          rw [Text.compareText_eq_eq_iff.mpr renamed.symm] at after
          contradiction
        rw [List.find?_cons_of_neg (by simp [different]), later behind]
        rfl

theorem Ordered.exchange_eq (ordered : catalog.Ordered) (entity : Entity) :
    catalog.exchange entity = (catalog.find? entity.name, catalog.insert entity) := by
  rw [exchange, exchangeIn_eq ordered]
  rfl

/-! ## After insertions -/

theorem ordered_ofInsertions (entities : List Entity) : (ofInsertions entities).Ordered :=
  ordered_empty.foldl_insert entities

theorem ofInsertions_snoc (entities : List Entity) (entity : Entity) :
    ofInsertions (entities ++ [entity]) = (ofInsertions entities).insert entity := by
  rw [ofInsertions, List.foldl_append]
  rfl

/-- A name finds the last entity of it. -/
theorem find?_ofInsertions (entities : List Entity) (name : String) :
    (ofInsertions entities).find? name = lastNamed entities name := by
  rw [ofInsertions, find?_foldl_insert, lastNamed, List.getLast?_filter]
  exact Option.or_none

theorem lastNamed_eq_some_iff_mem :
    lastNamed entities entity.name = some entity ↔ entity ∈ (ofInsertions entities).entities := by
  rw [← find?_ofInsertions, (ordered_ofInsertions entities).find?_eq_some_iff]
  exact and_iff_left rfl

theorem name_of_lastNamed (last : lastNamed entities name = some entity) : entity.name = name := by
  have member := List.mem_of_getLast? last
  exact eq_of_beq (List.mem_filter.mp member).2

theorem isSome_lastNamed_iff :
    (lastNamed entities name).isSome ↔ ∃ entity ∈ entities, entity.name = name := by
  rw [lastNamed, List.getLast?_filter, List.find?_isSome]
  simp

/-- The names are those of the inserted entities. -/
theorem mem_names_ofInsertions_iff :
    name ∈ (ofInsertions entities).names ↔ name ∈ entities.map Entity.name := by
  constructor
  · intro member
    obtain ⟨entity, held, rfl⟩ := List.mem_map.mp member
    rcases mem_or_mem_of_mem_foldl_insert held with inserted | old
    · exact List.mem_map_of_mem inserted
    · contradiction
  · intro member
    obtain ⟨entity, last⟩ := Option.isSome_iff_exists.mp
      (isSome_lastNamed_iff.mpr (List.mem_map.mp member))
    obtain rfl := name_of_lastNamed last
    exact List.mem_map_of_mem (lastNamed_eq_some_iff_mem.mp last)

theorem size_ofInsertions (entities : List Entity) :
    (ofInsertions entities).size = (entities.map Entity.name).toFinset.card := by
  have names : (ofInsertions entities).names.toFinset = (entities.map Entity.name).toFinset := by
    ext name
    rw [List.mem_toFinset, List.mem_toFinset, mem_names_ofInsertions_iff]
  rw [← names, List.toFinset_card_of_nodup (ordered_ofInsertions entities).nodup_names, size,
    Catalog.names, List.length_map]

/-- A name that no entity has is looked up as a model. -/
theorem get?_ofInsertions (entities : List Entity) (name : String) :
    (ofInsertions entities).get? name =
      (lastNamed entities name).or
        ((CardTable.ofModel? name).bind fun entry => lastNamed entities entry.table) := by
  simp only [get?, find?_ofInsertions]

theorem get?_ofInsertions_of_model (missing : lastNamed entities name = none) {entry : CardTable}
    (model : name = entry.model) :
    (ofInsertions entities).get? name = lastNamed entities entry.table := by
  rw [get?_ofInsertions, missing, CardTable.ofModel?_eq_some_iff.mpr model]
  exact Option.none_or

theorem get?_ofInsertions_of_no_model (missing : lastNamed entities name = none)
    (noModel : ∀ entry : CardTable, name ≠ entry.model) :
    (ofInsertions entities).get? name = none := by
  have unknown : CardTable.ofModel? name = none := by
    rw [Option.eq_none_iff_forall_ne_some]
    exact fun entry found => noModel entry (CardTable.ofModel?_eq_some_iff.mp found)
  rw [get?_ofInsertions, missing, unknown]
  rfl

/-- A name is known when an entity with it was inserted or, for a model, its table. -/
theorem isSome_get?_ofInsertions_iff :
    ((ofInsertions entities).get? name).isSome ↔
      ∃ entity ∈ entities, entity.name = name ∨
        ∃ entry : CardTable, name = entry.model ∧ entity.name = entry.table := by
  rw [get?_ofInsertions, Option.isSome_or, Bool.or_eq_true, isSome_lastNamed_iff]
  constructor
  · rintro (⟨entity, inserted, named⟩ | modelled)
    · exact ⟨entity, inserted, .inl named⟩
    · obtain ⟨found, known⟩ := Option.isSome_iff_exists.mp modelled
      obtain ⟨entry, model, last⟩ := Option.bind_eq_some_iff.mp known
      obtain ⟨entity, inserted, named⟩ := isSome_lastNamed_iff.mp (Option.isSome_of_eq_some last)
      exact ⟨entity, inserted, .inr ⟨entry, CardTable.ofModel?_eq_some_iff.mp model, named⟩⟩
  · rintro ⟨entity, inserted, named | ⟨entry, rfl, named⟩⟩
    · exact .inl ⟨entity, inserted, named⟩
    · rw [CardTable.ofModel?_model]
      exact .inr (isSome_lastNamed_iff.mpr ⟨entity, inserted, named⟩)

theorem pairwise_names (ordered : catalog.Ordered) :
    catalog.names.Pairwise fun left right => Text.utf8 left < Text.utf8 right :=
  List.pairwise_map.mpr (ordered.imp Text.compareText_eq_lt_iff.mp)

/-- After insertions into an empty catalog each name that was inserted stands in it once, in
strictly increasing byte order, with its last entity, whose side is decided by the name
alone.  A further insertion gives back exactly the entity that its name has found.  A name
is understood as the last entity of it, a model without such an entity as the last one of
its table, and nothing else is known.  Insertions with the same last entity of each name
make the same catalog. -/
theorem insertions_leave_last_of_each_name (entities : List Entity) :
    ∃ catalog, entities.foldl insert empty = catalog ∧
      (∀ name entity, catalog.find? name = some entity →
        entity.name = name ∧
          (entity.side = .primary ↔ ∃ entry : CardTable, name = entry.table)) ∧
      (catalog.names.Pairwise fun left right => Text.utf8 left < Text.utf8 right) ∧
      catalog.names.Nodup ∧ catalog.entities.map Entity.name = catalog.names ∧
      (∀ entity, entity ∈ catalog.entities ↔ lastNamed entities entity.name = some entity) ∧
      catalog.size = (entities.map Entity.name).toFinset.card ∧
      (∀ entity, catalog.exchange entity =
        (lastNamed entities entity.name, (entities ++ [entity]).foldl insert empty)) ∧
      (∀ name,
        (∀ entity, lastNamed entities name = some entity → catalog.get? name = some entity) ∧
        (lastNamed entities name = none →
          (∀ entry : CardTable, name = entry.model →
            catalog.get? name = lastNamed entities entry.table) ∧
          ((∀ entry : CardTable, name ≠ entry.model) → catalog.get? name = none)) ∧
        catalog.contains name = (catalog.get? name).isSome ∧
        (catalog.contains name = true ↔ ∃ entity ∈ entities, entity.name = name ∨
          ∃ entry : CardTable, name = entry.model ∧ entity.name = entry.table)) ∧
      ∀ others, (∀ name, lastNamed others name = lastNamed entities name) →
        others.foldl insert empty = catalog := by
  have ordered := ordered_ofInsertions entities
  refine ⟨ofInsertions entities, rfl, ?_, pairwise_names ordered, ordered.nodup_names, rfl,
    ?_, size_ofInsertions entities, ?_, ?_, ?_⟩
  · intro name entity found
    rw [find?_ofInsertions] at found
    obtain rfl := name_of_lastNamed found
    exact ⟨rfl, Side.ofEntity_eq_primary_iff⟩
  · exact fun entity => lastNamed_eq_some_iff_mem.symm
  · intro entity
    rw [ordered.exchange_eq, find?_ofInsertions, ← ofInsertions_snoc]
    rfl
  · intro name
    refine ⟨?_, ?_, rfl, isSome_get?_ofInsertions_iff⟩
    · intro entity last
      rw [get?_ofInsertions, last, Option.some_or]
    · intro missing
      exact ⟨fun _ => get?_ofInsertions_of_model missing, get?_ofInsertions_of_no_model missing⟩
  · intro others same
    apply (ordered_ofInsertions others).ext ordered
    intro name
    rw [find?_ofInsertions, find?_ofInsertions, same]

/-- Sets and cards that were inserted twice are what they were inserted as last, in whatever
order this was done. -/
theorem cards_and_sets_inserted_twice :
    let entities : List Entity :=
      [⟨"sets", []⟩, ⟨"cards", ["id"]⟩, ⟨"sets", ["code"]⟩, ⟨"cards", ["name"]⟩]
    ∃ catalog, entities.foldl insert empty = catalog ∧
      catalog.names = ["cards", "sets"] ∧ catalog.size = 2 ∧
      catalog.get? "Set" = some ⟨"sets", ["code"]⟩ ∧ catalog.get? "Token" = none ∧
      (catalog.exchange ⟨"cards", ["text"]⟩).1 = some ⟨"cards", ["name"]⟩ ∧
      (catalog.exchange ⟨"Set", ["owner"]⟩).1 = none ∧
      [⟨"cards", ["name"]⟩, ⟨"sets", ["code"]⟩].foldl insert empty = catalog := by
  intro entities
  have last (name : String) : lastNamed [⟨"cards", ["name"]⟩, ⟨"sets", ["code"]⟩] name =
      lastNamed entities name := by
    by_cases cards : "cards" = name
    · subst cards
      rfl
    · by_cases sets : "sets" = name <;> simp [entities, lastNamed, cards, sets]
  obtain ⟨catalog, made, -, -, -, -, -, size, exchanged, found, same⟩ :=
    insertions_leave_last_of_each_name entities
  have names : catalog.names = ["cards", "sets"] := by
    rw [← made]
    rfl
  refine ⟨catalog, made, names, ?_, ?_, ?_, ?_, ?_, same _ last⟩
  · exact size.trans rfl
  · exact ((found "Set").2.1 rfl).1 .set rfl
  · exact ((found "Token").2.1 rfl).1 .token rfl
  · rw [exchanged]
    rfl
  · rw [exchanged]
    rfl

end CardShell.Catalog
