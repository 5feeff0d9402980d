import CardShell.Catalog

/-!
# Shown columns

A column choice says, for some entities, which columns are shown and in which
order.  An entity without an entry shows all its columns.
-/

namespace CardShell

/-- The chosen columns by entity name.  The first entry of a name counts. -/
structure ColumnChoice where
  entries : List (String × List String)
deriving DecidableEq, Repr, Inhabited

namespace ColumnChoice

/-- No choice: every entity shows all its columns. -/
def empty : ColumnChoice :=
  ⟨[]⟩

/-- The choice made where nothing else is configured. -/
def standard : ColumnChoice :=
  ⟨[("cards", ["id", "name", "setCode", "power", "toughness", "manaCost", "type", "text"]),
    ("sets", ["id", "code", "block", "name", "releaseDate"])]⟩

/-- The chosen columns of an entity. -/
def chosen? (choice : ColumnChoice) (entity : String) : Option (List String) :=
  choice.entries.lookup entity

/-- Replace an entry where it stands, or add it at the end. -/
def put (entity : String) (columns : List String) :
    List (String × List String) → List (String × List String)
  | [] => [(entity, columns)]
  | first :: rest =>
      if first.1 = entity then (entity, columns) :: rest
      else first :: put entity columns rest

/-- Choose the columns of an entity. -/
def set (choice : ColumnChoice) (entity : String) (columns : List String) : ColumnChoice :=
  ⟨put entity columns choice.entries⟩

/-- Make every choice that another one makes. -/
def override (choice other : ColumnChoice) : ColumnChoice :=
  other.entries.foldr (fun entry result => result.set entry.1 entry.2) choice

/-- The columns shown for an entity. -/
def columnsFor (choice : ColumnChoice) (entity : Entity) : List String :=
  (choice.chosen? entity.name).getD entity.columns

/-- Whether a column of an entity is shown. -/
def shows (choice : ColumnChoice) (entity column : String) : Bool :=
  match choice.chosen? entity with
  | some columns => columns.contains column
  | none => true

/-- Whether two choices agree on every entity. -/
def agrees (choice other : ColumnChoice) : Bool :=
  (choice.entries ++ other.entries).all fun entry =>
    choice.chosen? entry.1 == other.chosen? entry.1

@[simp]
theorem chosen?_empty (entity : String) : empty.chosen? entity = none :=
  rfl

theorem lookup_put (entity other : String) (columns : List String)
    (entries : List (String × List String)) :
    (put entity columns entries).lookup other =
      if other = entity then some columns else entries.lookup other := by
  induction entries with
  | nil =>
      by_cases same : other = entity
      · simp [put, same]
      · simp [put, same, List.lookup_cons, beq_false_of_ne same]
  | cons first rest ih =>
      obtain ⟨name, chosen⟩ := first
      by_cases place : name = entity
      · subst place
        by_cases same : other = name
        · simp [put, same]
        · simp [put, same, List.lookup_cons, beq_false_of_ne same]
      · by_cases same : other = name
        · subst same
          simp [put, place]
        · simp [put, place, List.lookup_cons, beq_false_of_ne same, ih]

/-- After a choice for one entity, that entity has it and the others keep
theirs. -/
theorem chosen?_set (choice : ColumnChoice) (entity other : String) (columns : List String) :
    (choice.set entity columns).chosen? other =
      if other = entity then some columns else choice.chosen? other :=
  lookup_put entity other columns choice.entries

end ColumnChoice

end CardShell
