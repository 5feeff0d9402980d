import CardShell.Catalog
import CardShell.Proofs.Text.ByteOrder
import Mathlib.Data.List.Nodup

/-!
# The order of a catalog

Insertion keeps the entities of a catalog in strictly increasing byte order of
their names.  No two of them have the same name, so an entity of the catalog is
the one that its name finds.
-/

namespace CardShell

/-- Among items of different names, a name finds exactly the item of that
name. -/
theorem find?_eq_some_iff_of_nodup {α : Type} {name : α → String} {items : List α}
    (distinct : (items.map name).Nodup) {wanted : String} {item : α} :
    items.find? (fun other => name other == wanted) = some item ↔
      item ∈ items ∧ name item = wanted := by
  constructor
  · intro found
    exact ⟨List.mem_of_find?_eq_some found, by simpa using List.find?_some found⟩
  · rintro ⟨member, rfl⟩
    have known : (items.find? fun other => name other == name item).isSome :=
      List.find?_isSome.mpr ⟨item, member, beq_self_eq_true (name item)⟩
    obtain ⟨found, result⟩ := Option.isSome_iff_exists.mp known
    have same : name found = name item := by
      simpa using List.find?_some result
    rw [result, List.inj_on_of_nodup_map distinct (List.mem_of_find?_eq_some result) member same]

namespace Catalog

/-- The name of one entity comes before that of another. -/
def Precedes (left right : Entity) : Prop :=
  Text.compareText left.name right.name = .lt

theorem Precedes.name_ne {left right : Entity} (precedes : Precedes left right) :
    left.name ≠ right.name := by
  intro same
  rw [Precedes, Text.compareText_eq_eq_iff.mpr same] at precedes
  contradiction

theorem Precedes.trans {first second third : Entity} (lower : Precedes first second)
    (upper : Precedes second third) : Precedes first third :=
  Std.TransCmp.lt_trans lower upper

/-! ## Placing an entity -/

/-- Placing an entity adds nothing else. -/
theorem eq_or_mem_of_mem_place {entity member : Entity} {entities : List Entity}
    (placed : member ∈ place entity entities) : member = entity ∨ member ∈ entities := by
  induction entities with
  | nil => exact .inl (List.mem_singleton.mp placed)
  | cons first rest later =>
      rw [place] at placed
      split at placed
      · exact List.mem_cons.mp placed
      · rcases List.mem_cons.mp placed with same | behind
        · exact .inl same
        · exact .inr (List.mem_cons_of_mem first behind)
      · rcases List.mem_cons.mp placed with same | behind
        · exact .inr (same ▸ List.mem_cons_self)
        · rcases later behind with same | old
          · exact .inl same
          · exact .inr (List.mem_cons_of_mem first old)

/-- An entity is placed where the order asks for it. -/
theorem pairwise_place {entities : List Entity} (ordered : entities.Pairwise Precedes)
    (entity : Entity) : (place entity entities).Pairwise Precedes := by
  induction entities with
  | nil => exact List.pairwise_singleton Precedes entity
  | cons first rest later =>
      obtain ⟨ahead, behind⟩ := List.pairwise_cons.mp ordered
      rw [place]
      split
      · rename_i before
        apply List.pairwise_cons.mpr
        constructor
        · intro other member
          rcases List.mem_cons.mp member with rfl | old
          · exact before
          · exact Precedes.trans before (ahead other old)
        · exact ordered
      · rename_i same
        apply List.pairwise_cons.mpr
        constructor
        · intro other old
          rw [Precedes, Text.compareText_eq_eq_iff.mp same]
          exact ahead other old
        · exact behind
      · rename_i after
        apply List.pairwise_cons.mpr
        constructor
        · intro other member
          rcases eq_or_mem_of_mem_place member with rfl | old
          · exact Std.OrientedCmp.gt_iff_lt.mp after
          · exact ahead other old
        · exact later behind

/-! ## Catalogs -/

/-- The entities stand in strictly increasing byte order of their names. -/
def Ordered (catalog : Catalog) : Prop :=
  catalog.entities.Pairwise Precedes

theorem ordered_empty : empty.Ordered :=
  List.Pairwise.nil

theorem Ordered.insert {catalog : Catalog} (ordered : catalog.Ordered) (entity : Entity) :
    (catalog.insert entity).Ordered :=
  pairwise_place ordered entity

/-- Any number of insertions keeps a catalog in order. -/
theorem Ordered.foldl_insert {catalog : Catalog} (ordered : catalog.Ordered)
    (entities : List Entity) : (entities.foldl Catalog.insert catalog).Ordered := by
  induction entities generalizing catalog with
  | nil => exact ordered
  | cons entity entities later => exact later (ordered.insert entity)

/-- After insertions a catalog holds nothing but what it held and what was
inserted. -/
theorem mem_or_mem_of_mem_foldl_insert {catalog : Catalog} {entities : List Entity}
    {entity : Entity} (member : entity ∈ (entities.foldl insert catalog).entities) :
    entity ∈ entities ∨ entity ∈ catalog.entities := by
  induction entities generalizing catalog with
  | nil => exact .inr member
  | cons first entities later =>
      rcases later member with inserted | held
      · exact .inl (List.mem_cons_of_mem first inserted)
      · rcases eq_or_mem_of_mem_place held with rfl | old
        · exact .inl List.mem_cons_self
        · exact .inr old

theorem Ordered.nodup_names {catalog : Catalog} (ordered : catalog.Ordered) :
    catalog.names.Nodup :=
  List.pairwise_map.mpr (ordered.imp Precedes.name_ne)

/-- In a catalog in order a name finds exactly the entity of that name. -/
theorem Ordered.find?_eq_some_iff {catalog : Catalog} (ordered : catalog.Ordered)
    {name : String} {entity : Entity} :
    catalog.find? name = some entity ↔ entity ∈ catalog.entities ∧ entity.name = name :=
  find?_eq_some_iff_of_nodup ordered.nodup_names

/-- A name stands for nothing but entities of the catalog. -/
theorem mem_of_get? {catalog : Catalog} {name : String} {entity : Entity}
    (found : catalog.get? name = some entity) : entity ∈ catalog.entities := by
  rcases Option.or_eq_some_iff.mp found with named | ⟨-, model⟩
  · exact List.mem_of_find?_eq_some named
  · obtain ⟨entry, -, table⟩ := Option.bind_eq_some_iff.mp model
    exact List.mem_of_find?_eq_some table

/-- The name of an entity is understood as that entity, even when it is also the
name of a model. -/
theorem Ordered.get?_of_mem {catalog : Catalog} (ordered : catalog.Ordered) {entity : Entity}
    (member : entity ∈ catalog.entities) : catalog.get? entity.name = some entity := by
  rw [get?, ordered.find?_eq_some_iff.mpr ⟨member, rfl⟩, Option.some_or]

/-! ## Finding after insertions -/

/-- Placing an entity changes what its own name finds and nothing else. -/
theorem find?_place (entity : Entity) (entities : List Entity) (name : String) :
    (place entity entities).find? (fun other => other.name == name) =
      if entity.name = name then some entity
      else entities.find? fun other => other.name == name := by
  induction entities with
  | nil => by_cases same : entity.name = name <;> simp [place, same]
  | cons first rest later =>
      rw [place]
      split
      · by_cases same : entity.name = name <;> simp [List.find?_cons, same]
      · rename_i equal
        have renamed : first.name = entity.name := (Text.compareText_eq_eq_iff.mp equal).symm
        by_cases same : entity.name = name <;> simp [same, renamed]
      · rename_i after
        have different : first.name ≠ entity.name := fun equal => by
          rw [Text.compareText_eq_eq_iff.mpr equal.symm] at after
          contradiction
        rw [List.find?_cons, List.find?_cons, later]
        by_cases found : first.name = name
        · have other : entity.name ≠ name := fun same => different (found.trans same.symm)
          simp [found, other]
        · simp [beq_false_of_ne found]

theorem find?_insert (catalog : Catalog) (entity : Entity) (name : String) :
    (catalog.insert entity).find? name =
      if entity.name = name then some entity else catalog.find? name :=
  find?_place entity catalog.entities name

/-- After insertions a name finds the last entity of that name, and what it found
before when none of them has it. -/
theorem find?_foldl_insert (catalog : Catalog) (entities : List Entity) (name : String) :
    (entities.foldl insert catalog).find? name =
      (entities.reverse.find? fun entity => entity.name == name).or (catalog.find? name) := by
  induction entities generalizing catalog with
  | nil => rfl
  | cons entity entities later =>
      rw [List.foldl_cons, later, find?_insert, List.reverse_cons, List.find?_append,
        Option.or_assoc]
      by_cases same : entity.name = name <;> simp [same]

/-! ## New entities -/

/-- Placing an entity of a new name replaces nothing. -/
theorem perm_place {entity : Entity} {entities : List Entity}
    (fresh : ∀ other ∈ entities, other.name ≠ entity.name) :
    (place entity entities).Perm (entity :: entities) := by
  induction entities with
  | nil => exact List.Perm.refl [entity]
  | cons first rest later =>
      obtain ⟨different, others⟩ := List.forall_mem_cons.mp fresh
      rw [place]
      split
      · exact List.Perm.refl _
      · rename_i same
        exact absurd (Text.compareText_eq_eq_iff.mp same).symm different
      · exact ((later others).cons first).trans (List.Perm.swap entity first rest)

/-- Inserting entities of new and different names replaces nothing. -/
theorem perm_foldl_insert {catalog : Catalog} {entities : List Entity}
    (distinct : ((entities ++ catalog.entities).map Entity.name).Nodup) :
    (entities.foldl insert catalog).entities.Perm (entities ++ catalog.entities) := by
  induction entities generalizing catalog with
  | nil => exact List.Perm.refl _
  | cons entity entities later =>
      rw [List.cons_append, List.map_cons, List.nodup_cons] at distinct
      obtain ⟨fresh, rest⟩ := distinct
      have placed : (catalog.insert entity).entities.Perm (entity :: catalog.entities) := by
        apply perm_place
        intro other held same
        exact fresh (List.mem_map.mpr ⟨other, List.mem_append_right _ held, same⟩)
      have moved : (entities ++ (catalog.insert entity).entities).Perm
          (entity :: (entities ++ catalog.entities)) :=
        (placed.append_left entities).trans List.perm_middle
      rw [List.foldl_cons]
      refine (later ?_).trans moved
      rw [(moved.map Entity.name).nodup_iff, List.map_cons, List.nodup_cons]
      exact ⟨fresh, rest⟩

/-- Entities of different names make up the catalog that they are inserted in. -/
theorem perm_foldl_insert_empty {entities : List Entity}
    (distinct : (entities.map Entity.name).Nodup) :
    (entities.foldl insert empty).entities.Perm entities := by
  have alone : entities ++ empty.entities = entities := List.append_nil entities
  have inserted : (entities.foldl insert empty).entities.Perm (entities ++ empty.entities) :=
    perm_foldl_insert (by rwa [alone])
  rwa [alone] at inserted

/-- Of entities with different names each is new when its turn comes. -/
theorem find?_foldl_insert_of_nodup {before after : List Entity} {entity : Entity}
    (distinct : ((before ++ entity :: after).map Entity.name).Nodup) :
    (before.foldl insert empty).find? entity.name = none := by
  rw [List.map_append, List.map_cons, List.nodup_append] at distinct
  obtain ⟨-, -, apart⟩ := distinct
  have missing : before.reverse.find? (fun other => other.name == entity.name) = none := by
    rw [List.find?_eq_none]
    intro other earlier same
    exact apart other.name (List.mem_map_of_mem (List.mem_reverse.mp earlier)) entity.name
      List.mem_cons_self (eq_of_beq same)
  rw [find?_foldl_insert, missing]
  rfl

end Catalog

end CardShell
