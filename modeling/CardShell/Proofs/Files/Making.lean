import CardShell.Proofs.Files.Opening

/-!
# Files made one after another

Making a file adds one regular file where there was none.  Several files can be made in
turn where none of them needs a directory in the place of another: each then finds its
place as free as it was at the start, and in the end exactly these files have been added.
-/

namespace CardShell

/-- On the way to a path are the proper beginnings of it. -/
theorem Path.mem_above_iff {above path : List Part} :
    above ∈ Path.above path ↔ above <+: path ∧ above ≠ path := by
  rw [Path.above, List.mem_map]
  constructor
  · rintro ⟨count, inside, rfl⟩
    refine ⟨List.take_prefix count path, ?_⟩
    intro whole
    have lengths := congrArg List.length whole
    rw [List.length_take] at lengths
    have shorter := List.mem_range.mp inside
    omega
  · rintro ⟨begins, proper⟩
    refine ⟨above.length, List.mem_range.mpr ?_, (List.prefix_iff_eq_take.mp begins).symm⟩
    exact Nat.lt_of_le_of_ne begins.length_le fun same => proper (begins.eq_of_length same)

namespace FileSystem

variable {system : FileSystem}

/-! ## Regular files -/

/-- The regular file at a place, if there is one. -/
def regular? (system : FileSystem) (place : List Path.Part) : Option File :=
  (system.find? place).filter (· != .directory)

theorem regular?_eq_some_iff {place : List Path.Part} {file : File} :
    system.regular? place = some file ↔ system.find? place = some file ∧ file ≠ .directory := by
  rw [regular?, Option.filter_eq_some_iff, bne_iff_ne]

/-- Regular files are those that are stored. -/
theorem regular?_eq_filter_lookup (system : FileSystem) (place : List Path.Part) :
    system.regular? place = (system.files.lookup place).filter (· != .directory) := by
  rw [regular?]
  cases stored : system.files.lookup place with
  | some file => rw [find?_of_lookup stored]
  | none =>
      by_cases houses : system.Houses place
      · rw [find?_of_houses stored houses]
        rfl
      · rw [find?_of_not_houses stored houses]

theorem isBlocked_eq_any (system : FileSystem) (path : List Path.Part) :
    system.isBlocked path = (Path.above path).any fun above => (system.regular? above).isSome := by
  rw [isBlocked]
  congr 1
  funext above
  rw [regular?]
  cases system.find? above with
  | none => rfl
  | some file => cases file <;> rfl

/-- A path is blocked by the regular files on the way to it. -/
theorem isBlocked_eq_false_iff {path : List Path.Part} :
    system.isBlocked path = false ↔
      ∀ above, above <+: path → above ≠ path → system.regular? above = none := by
  rw [isBlocked_eq_any, List.any_eq_false]
  simp only [Path.mem_above_iff, Option.not_isSome_iff_eq_none, and_imp]

/-! ## Making one file -/

theorem touch_of_found {path : List Path.Part} {file : File}
    (found : system.find? path = some file) : system.touch path = system := by
  rw [touch, found]
  rfl

/-- Making a file where there is no directory adds a regular file unless there is one
already. -/
theorem regular?_touch {path : List Path.Part} (free : system.find? path ≠ some .directory)
    (place : List Path.Part) :
    (system.touch path).regular? place =
      (system.regular? place).or (if place = path then some (.text "") else none) := by
  cases found : system.find? path with
  | some file =>
      rw [touch_of_found found]
      split
      · rename_i same
        have present : system.regular? place = some file := by
          rw [same, regular?_eq_some_iff]
          exact ⟨found, fun directory => free (directory ▸ found)⟩
        rw [present, Option.some_or]
      · rw [Option.or_none]
  | none =>
      rw [regular?_eq_filter_lookup, regular?_eq_filter_lookup, lookup_touch found]
      split
      · rename_i same
        rw [same, (find?_eq_none_iff.mp found).1]
        rfl
      · rw [Option.or_none, Option.or_none]

/-- The directories that come with a new file are on the way to it. -/
theorem directory_of_touch {path place : List Path.Part}
    (found : (system.touch path).find? place = some .directory) :
    system.find? place = some .directory ∨ place <+: path := by
  cases there : system.find? path with
  | some file =>
      rw [touch_of_found there] at found
      exact .inl found
  | none =>
      cases stored : system.files.lookup place with
      | some file =>
          have kept := (lookup_touch there place).trans (congrArg (Option.or · _) stored)
          rw [find?_of_lookup kept] at found
          exact .inl ((find?_of_lookup stored).trans found)
      | none =>
          rcases houses_of_find?_directory found with empty | root | ⟨entry, member, begins⟩
          · exact .inl (find?_of_houses stored (.inl empty))
          · exact .inl (find?_of_houses stored (.inr (.inl root)))
          · rw [touch_of_missing there] at member
            rcases List.mem_append.mp member with old | new
            · exact .inl (find?_of_houses stored (.inr (.inr ⟨entry, old, begins⟩)))
            · obtain rfl := List.mem_singleton.mp new
              exact .inr begins

/-! ## Making several files -/

/-- Files can be made at places in turn: there are only directories on the way to them, no
directory stands at one of them, and none is on the way to another. -/
structure HasRoom (system : FileSystem) (places : List (List Path.Part)) : Prop where
  unblocked : ∀ place ∈ places, system.isBlocked place = false
  free : ∀ place ∈ places, system.find? place ≠ some .directory
  apart : ∀ place ∈ places, ∀ other ∈ places, place <+: other → place = other

/-- When one of the files is made, the others can still be made. -/
theorem HasRoom.touch {path : List Path.Part} {places : List (List Path.Part)}
    (room : system.HasRoom (path :: places)) : (system.touch path).HasRoom places where
  unblocked := by
    intro place member
    have passable := room.unblocked place (List.mem_cons_of_mem path member)
    rw [isBlocked_eq_false_iff] at passable ⊢
    intro above begins proper
    rw [regular?_touch (room.free path List.mem_cons_self), passable above begins proper,
      Option.none_or]
    -- only the new file could stand on the way, and then the two places would not be apart
    apply if_neg
    rintro rfl
    exact proper
      (room.apart above List.mem_cons_self place (List.mem_cons_of_mem above member) begins)
  free := by
    intro place member found
    have behind := List.mem_cons_of_mem path member
    rcases directory_of_touch found with old | begins
    · exact room.free place behind old
    · obtain rfl := room.apart place behind path List.mem_cons_self begins
      have made : (system.touch place).regular? place ≠ none := by
        rw [regular?_touch (room.free place behind), if_pos rfl, ne_eq, Option.or_eq_none_iff]
        simp
      rw [regular?, found] at made
      exact made rfl
  apart := fun place member other another =>
    room.apart place (List.mem_cons_of_mem path member) other (List.mem_cons_of_mem path another)

/-- Where files are made in turn, these and no others are added to the regular files, and
those that were there stay as they are. -/
theorem regular?_foldl_touch {places : List (List Path.Part)} (room : system.HasRoom places)
    (place : List Path.Part) :
    (places.foldl touch system).regular? place =
      (system.regular? place).or (if place ∈ places then some (.text "") else none) := by
  induction places generalizing system with
  | nil => simp
  | cons path places later =>
      rw [List.foldl_cons, later room.touch, regular?_touch (room.free path List.mem_cons_self),
        Option.or_assoc]
      congr 1
      by_cases same : place = path <;> simp [same]

/-- A file that was made is not made again. -/
theorem touch_foldl_touch {places : List (List Path.Part)} (room : system.HasRoom places)
    {place : List Path.Part} (member : place ∈ places) :
    (places.foldl touch system).touch place = places.foldl touch system := by
  have made := regular?_foldl_touch room place
  rw [if_pos member] at made
  cases before : system.regular? place with
  | some file =>
      rw [before, Option.some_or] at made
      exact touch_of_found (regular?_eq_some_iff.mp made).1
  | none =>
      rw [before, Option.none_or] at made
      exact touch_of_found (regular?_eq_some_iff.mp made).1

end FileSystem
end CardShell
