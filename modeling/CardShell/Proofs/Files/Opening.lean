import CardShell.Files
import Mathlib.Data.List.Infix

/-!
# Databases in files

What opening databases does to files.  A database that has to exist is refused where
nothing but a directory can be found; one that may be new is made where nothing is found,
if the directory above it is there.  Making a file changes what one path leads to and
nothing else.
-/

namespace CardShell

/-- The normal path that a written path names. -/
def Path.place (path : String) : List Part :=
  normal (parts path)

namespace FileSystem

variable {system : FileSystem}

/-! ## Directories -/

/-- A path that is a directory unless something else stands there: a starting point, or a
part of the way to a stored file. -/
def Houses (system : FileSystem) (place : List Path.Part) : Prop :=
  place = [] ∨ place = [Path.root] ∨ ∃ entry ∈ system.files, place <+: entry.1

theorem Houses.of_prefix {place directory : List Path.Part} (houses : system.Houses directory)
    (above : place <+: directory) : system.Houses place := by
  rcases houses with rfl | rfl | ⟨entry, stored, below⟩
  · exact .inl (List.prefix_nil.mp above)
  · rcases List.prefix_cons_iff.mp above with rfl | ⟨rest, rfl, ending⟩
    · exact .inl rfl
    · exact .inr (.inl (congrArg (Path.root :: ·) (List.prefix_nil.mp ending)))
  · exact .inr (.inr ⟨entry, stored, above.trans below⟩)

theorem find?_of_lookup {place : List Path.Part} {file : File}
    (stored : system.files.lookup place = some file) : system.find? place = some file := by
  rw [find?, stored]

theorem find?_of_houses {place : List Path.Part} (free : system.files.lookup place = none)
    (houses : system.Houses place) : system.find? place = some .directory := by
  rw [find?, free]
  apply if_pos
  simpa [Houses, or_assoc] using houses

theorem find?_of_not_houses {place : List Path.Part} (free : system.files.lookup place = none)
    (nothing : ¬ system.Houses place) : system.find? place = none := by
  rw [find?, free]
  apply if_neg
  simpa [Houses, or_assoc] using nothing

/-- Nothing is found where nothing is stored and no stored file is below. -/
theorem find?_eq_none_iff {place : List Path.Part} :
    system.find? place = none ↔ system.files.lookup place = none ∧ ¬ system.Houses place := by
  cases stored : system.files.lookup place with
  | some file => simp [find?_of_lookup stored]
  | none =>
      by_cases houses : system.Houses place
      · simp [find?_of_houses stored houses, houses]
      · simp [find?_of_not_houses stored houses, houses]

/-- Every path above a directory houses something. -/
theorem houses_of_find?_directory {directory : List Path.Part}
    (found : system.find? directory = some .directory) : system.Houses directory := by
  cases stored : system.files.lookup directory with
  | some file =>
      rcases List.lookup_eq_some_iff.mp stored with ⟨before, after, shape, -⟩
      exact .inr (.inr ⟨(directory, file), by simp [shape], List.prefix_refl directory⟩)
  | none =>
      by_contra nothing
      rw [find?_of_not_houses stored nothing] at found
      contradiction

/-! ## A new file -/

/-- Only the path of a new file comes to house something, apart from the paths that
do already. -/
theorem houses_append_iff {path : List Path.Part} {file : File} {place : List Path.Part}
    (housed : system.find? path.dropLast = some .directory) (other : place ≠ path) :
    Houses ⟨system.files ++ [(path, file)]⟩ place ↔ system.Houses place := by
  have houses := houses_of_find?_directory housed
  constructor
  · rintro (empty | root | ⟨entry, stored, below⟩)
    · exact .inl empty
    · exact .inr (.inl root)
    · rcases List.mem_append.mp stored with old | new
      · exact .inr (.inr ⟨entry, old, below⟩)
      · obtain rfl := List.mem_singleton.mp new
        rcases List.eq_nil_or_concat path with rfl | ⟨directory, name, rfl⟩
        · exact absurd (List.prefix_nil.mp below) other
        · rw [List.concat_eq_append] at below housed other houses
          rw [List.dropLast_concat] at houses
          rcases List.prefix_concat_iff.mp below with same | above
          · exact absurd same other
          · exact houses.of_prefix above
  · rintro (empty | root | ⟨entry, stored, below⟩)
    · exact .inl empty
    · exact .inr (.inl root)
    · exact .inr (.inr ⟨entry, List.mem_append_left _ stored, below⟩)

theorem touch_of_missing {path : List Path.Part} (missing : system.find? path = none) :
    system.touch path = ⟨system.files ++ [(path, .text "")]⟩ := by
  rw [touch, missing]
  rfl

theorem lookup_touch {path : List Path.Part} (missing : system.find? path = none)
    (place : List Path.Part) :
    (system.touch path).files.lookup place =
      (system.files.lookup place).or (if place = path then some (.text "") else none) := by
  rw [touch_of_missing missing, List.lookup_append]
  by_cases same : place = path
  · simp [same]
  · simp [List.lookup_cons, same, beq_false_of_ne same]

/-- A new file in a directory changes what its own path leads to and nothing else. -/
theorem find?_touch {path : List Path.Part} (missing : system.find? path = none)
    (housed : system.find? path.dropLast = some .directory) (place : List Path.Part) :
    (system.touch path).find? place =
      if place = path then some (.text "") else system.find? place := by
  rcases find?_eq_none_iff.mp missing with ⟨free, -⟩
  have lookup := lookup_touch missing place
  split
  · rename_i same
    apply find?_of_lookup
    rw [lookup, same, free]
    simp
  · rename_i other
    rw [if_neg other, Option.or_none] at lookup
    cases stored : system.files.lookup place with
    | some file => rw [find?_of_lookup (lookup.trans stored), find?_of_lookup stored]
    | none =>
        have same : (system.touch path).Houses place ↔ system.Houses place :=
          touch_of_missing missing ▸ houses_append_iff housed other
        by_cases houses : system.Houses place
        · rw [find?_of_houses (lookup.trans stored) (same.mpr houses),
            find?_of_houses stored houses]
        · rw [find?_of_not_houses (lookup.trans stored) (fun new => houses (same.mp new)),
            find?_of_not_houses stored houses]

/-! ## Opening -/

/-- Something other than a directory is found at a written path. -/
def holds (system : FileSystem) (path : String) : Bool :=
  match system.find? (Path.place path) with
  | some file => file != .directory
  | none => false

/-- Nothing is found at a written path, and the directory above it is there. -/
def admits (system : FileSystem) (path : String) : Bool :=
  (system.find? (Path.place path)).isNone && system.isDirectory (Path.place path).dropLast

theorem admits_iff {path : String} :
    system.admits path = true ↔ system.find? (Path.place path) = none ∧
      system.find? (Path.place path).dropLast = some .directory := by
  simp [admits, isDirectory]

/-- Why a database that has to exist is refused: its file does not. -/
def refusesExisting? (system : FileSystem) : Location → Option StorageError
  | .memory => none
  | .file path => if system.holds path then none else some (.cannotOpen path)

/-- Why a database that may be new is refused: its file does not exist and cannot be
made. -/
def refusesNew? (system : FileSystem) : Location → Option StorageError
  | .memory => none
  | .file path =>
      if system.holds path || system.admits path then none else some (.cannotOpen path)

/-- The database that is opened at a location, which is empty where there was none. -/
def databaseAt (system : FileSystem) : Location → Handle
  | .memory => .database .empty
  | .file path => ((system.find? (Path.place path)).bind handle?).getD (.database .empty)

theorem exists_handle? {file : File} (regular : file ≠ .directory) :
    ∃ handle, handle? file = some handle := by
  cases file with
  | directory => exact absurd rfl regular
  | text content => exact ⟨_, rfl⟩
  | database content => exact ⟨_, rfl⟩
  | binary => exact ⟨_, rfl⟩

/-- A database that has to exist is opened unless it is refused. -/
theorem openExisting_eq (system : FileSystem) (location : Location) :
    system.openExisting location =
      match system.refusesExisting? location with
      | some refusal => .error refusal
      | none => .ok (system.databaseAt location) := by
  cases location with
  | memory => rfl
  | file path =>
      rw [openExisting, refusesExisting?, holds, databaseAt, Path.place]
      cases system.find? (Path.normal (Path.parts path)) with
      | none => rfl
      | some file =>
          by_cases directory : file = .directory
          · rw [directory]
            rfl
          · rcases exists_handle? directory with ⟨handle, read⟩
            simp [read, directory]

/-- A database that may be new is opened unless it is refused, and its file is made where
one can be. -/
theorem openOrCreate_eq (system : FileSystem) (path : String) :
    system.openOrCreate (.file path) =
      (if system.admits path then system.touch (Path.place path) else system,
        match system.refusesNew? (.file path) with
        | some refusal => .error refusal
        | none => .ok (system.databaseAt (.file path))) := by
  cases found : system.find? (Path.place path) with
  | none =>
      rw [Path.place] at found
      cases housed : system.isDirectory (Path.normal (Path.parts path)).dropLast <;>
        simp [openOrCreate, refusesNew?, holds, admits, databaseAt, Path.place, found, housed]
  | some file =>
      rw [Path.place] at found
      by_cases directory : file = .directory
      · rw [directory] at found
        simp [openOrCreate, refusesNew?, holds, admits, Path.place, found, handle?]
      · rcases exists_handle? directory with ⟨handle, read⟩
        simp [openOrCreate, refusesNew?, holds, admits, databaseAt, Path.place, found, read,
          directory]

theorem openOrCreate_snd (system : FileSystem) (location : Location) :
    (system.openOrCreate location).2 =
      match system.refusesNew? location with
      | some refusal => .error refusal
      | none => .ok (system.databaseAt location) := by
  cases location with
  | memory => rfl
  | file path => rw [openOrCreate_eq]

end FileSystem
end CardShell
