import CardShell.Proofs.Files.Opening
import CardShell.Proofs.Outcome
import CardShell.Session

/-!
# Opening a session

Opening a session goes through stages of which each may be stopped: two locations are
read, two databases are opened, the choice of columns is read and understood, and the
schemas are read.  The first stage that is stopped is the one that is reported.  However
the opening ends, no file changes, and the only file that may be new is the one of the
inventory, which is empty.
-/

namespace CardShell.Session

/-! ## Stages -/

/-- What can stop the opening of a session. -/
inductive Stage where
  | catalogUri
  | inventoryUri
  | primary
  | secondary
  | columnsText
  | columnsDocument
  | schemas
deriving DecidableEq, Repr

namespace Stage

/-- The stages before the inventory is opened. -/
def beforeInventory : List Stage :=
  [.catalogUri, .inventoryUri, .primary]

/-- The stages of loading the column choice. -/
def ofColumns : List Stage :=
  [.columnsText, .columnsDocument]

/-- The stages in the order in which they are reached. -/
def all : List Stage :=
  beforeInventory ++ [.secondary] ++ ofColumns ++ [.schemas]

theorem mem_all (stage : Stage) : stage ∈ all := by
  cases stage <;> simp [all, beforeInventory, ofColumns]

end Stage

/-- The files once the databases are open: where the inventory can be made, its file is
there too. -/
def prepared (system : FileSystem) (settings : Settings) : FileSystem :=
  match settings.catalogLocation, settings.inventoryLocation with
  | .ok catalog, .ok (.file path) =>
      if system.refusesExisting? catalog = none ∧ system.admits path = true then
        system.touch (Path.place path)
      else system
  | _, _ => system

/-- What stops the opening of a session at a stage.  A stage that waits for what an earlier
one did not give is not stopped. -/
def obstacle? (system : FileSystem) (settings : Settings) : Stage → Option Failure
  | .catalogUri => (Except.error? settings.catalogLocation).map .config
  | .inventoryUri => (Except.error? settings.inventoryLocation).map .config
  | .primary => do
      let catalog ← settings.catalogLocation.toOption
      (system.refusesExisting? catalog).map .storage
  | .secondary => do
      let inventory ← settings.inventoryLocation.toOption
      (system.refusesNew? inventory).map .storage
  | .columnsText => do
      let path ← settings.columnsFile
      (Except.error? ((prepared system settings).readText path)).map .file
  | .columnsDocument => do
      let path ← settings.columnsFile
      let source ← ((prepared system settings).readText path).toOption
      (Except.error? (ColumnChoice.standardWith source)).map .config
  | .schemas => do
      let catalog ← settings.catalogLocation.toOption
      let inventory ← settings.inventoryLocation.toOption
      let databases : Databases Handle := ⟨system.databaseAt catalog, system.databaseAt inventory⟩
      (Except.error? databases.catalog.result).map .storage

/-- Both locations are valid and the card catalog can be opened, so that the inventory is
next. -/
structure Ready (system : FileSystem) (settings : Settings) (catalog inventory : Location) :
    Prop where
  catalogUri : settings.catalogLocation = .ok catalog
  inventoryUri : settings.inventoryLocation = .ok inventory
  primary : system.refusesExisting? catalog = none

/-- The inventory is made at a place: it is a file that does not exist, in a directory
that does. -/
structure MakesInventory (system : FileSystem) (settings : Settings) (place : List Path.Part) :
    Prop where
  ready : ∃ catalog path, Ready system settings catalog (.file path) ∧ Path.place path = place
  missing : system.find? place = none
  housed : system.find? place.dropLast = some .directory

variable {system : FileSystem} {settings : Settings} {catalog inventory : Location}

/-! ## Opening the databases -/

theorem Ready.findSome?_obstacle? (ready : Ready system settings catalog inventory) :
    Stage.beforeInventory.findSome? (obstacle? system settings) = none := by
  simp [Stage.beforeInventory, obstacle?, ready.catalogUri, ready.inventoryUri, ready.primary,
    Except.error?, Except.toOption]

/-- With the card catalog open only the inventory is in question. -/
theorem Ready.openDatabases_eq (ready : Ready system settings catalog inventory) :
    openDatabases system settings =
      ((system.openOrCreate inventory).1,
        match system.refusesNew? inventory with
        | some refusal => .error (.storage refusal)
        | none => .ok (catalog, inventory,
            ⟨system.databaseAt catalog, system.databaseAt inventory⟩)) := by
  have opened : system.openExisting catalog = .ok (system.databaseAt catalog) := by
    rw [FileSystem.openExisting_eq, ready.primary]
  have made := system.openOrCreate_snd inventory
  simp only [openDatabases, ready.catalogUri, ready.inventoryUri, opened, bind, Except.bind,
    Except.mapError, pure, Except.pure, made]
  cases system.refusesNew? inventory <;> rfl

/-- Before the card catalog is open nothing happens to the files. -/
theorem exists_ready_or_refused (system : FileSystem) (settings : Settings) :
    (∃ catalog inventory, Ready system settings catalog inventory) ∨
      ∃ failure, Stage.beforeInventory.findSome? (obstacle? system settings) = some failure ∧
        openDatabases system settings = (system, .error failure) := by
  cases first : settings.catalogLocation with
  | error failure =>
      refine .inr ⟨.config failure, ?_, ?_⟩
      · simp [Stage.beforeInventory, obstacle?, first, Except.error?]
      · simp only [openDatabases, first, bind, Except.bind, Except.mapError]
  | ok catalog =>
      cases second : settings.inventoryLocation with
      | error failure =>
          refine .inr ⟨.config failure, ?_, ?_⟩
          · simp [Stage.beforeInventory, obstacle?, first, second, Except.error?]
          · simp only [openDatabases, first, second, bind, Except.bind, Except.mapError]
      | ok inventory =>
          cases third : system.refusesExisting? catalog with
          | none => exact .inl ⟨catalog, inventory, first, second, third⟩
          | some refusal =>
              have closed : system.openExisting catalog = .error refusal := by
                rw [FileSystem.openExisting_eq, third]
              refine .inr ⟨.storage refusal, ?_, ?_⟩
              · simp [Stage.beforeInventory, obstacle?, first, second, third, Except.error?,
                  Except.toOption]
              · simp only [openDatabases, first, second, closed, bind, Except.bind,
                  Except.mapError]

/-- The databases are opened unless a stage up to the opening of the inventory is
stopped. -/
theorem error?_openDatabases (system : FileSystem) (settings : Settings) :
    Except.error? (openDatabases system settings).2 =
      (Stage.beforeInventory ++ [Stage.secondary]).findSome? (obstacle? system settings) := by
  rw [List.findSome?_append]
  rcases exists_ready_or_refused system settings with
    ⟨catalog, inventory, ready⟩ | ⟨failure, first, refused⟩
  · rw [ready.findSome?_obstacle?, ready.openDatabases_eq, Option.none_or]
    cases available : system.refusesNew? inventory <;>
      simp [obstacle?, ready.inventoryUri, available, Except.error?, Except.toOption]
  · rw [first, refused]
    rfl

/-- Databases that are opened are those at the two locations. -/
theorem databases_of_openDatabases {databases : Databases Handle}
    (opened : (openDatabases system settings).2 = .ok (catalog, inventory, databases)) :
    Ready system settings catalog inventory ∧
      databases = ⟨system.databaseAt catalog, system.databaseAt inventory⟩ := by
  rcases exists_ready_or_refused system settings with
    ⟨location, other, ready⟩ | ⟨failure, -, refused⟩
  · rw [ready.openDatabases_eq] at opened
    cases available : system.refusesNew? other with
    | some refusal => simp [available] at opened
    | none =>
        rw [available] at opened
        cases opened
        exact ⟨ready, rfl⟩
  · rw [refused] at opened
    contradiction

/-! ## The files -/

theorem Ready.prepared_eq (ready : Ready system settings catalog inventory) :
    prepared system settings = (system.openOrCreate inventory).1 := by
  rw [prepared, ready.catalogUri, ready.inventoryUri]
  cases inventory with
  | memory => rfl
  | file path => simp [FileSystem.openOrCreate_eq, ready.primary]

/-- Where no inventory is made, all files stay. -/
theorem prepared_of_not_makes (never : ∀ place, ¬ MakesInventory system settings place) :
    prepared system settings = system := by
  unfold prepared
  split
  · next catalog path first second =>
      apply if_neg
      rintro ⟨third, admitted⟩
      rcases FileSystem.admits_iff.mp admitted with ⟨missing, housed⟩
      exact never _ ⟨⟨catalog, path, ⟨first, second, third⟩, rfl⟩, missing, housed⟩
  · rfl

/-- Where the inventory is made, an empty file is new and everything else stays. -/
theorem MakesInventory.find?_prepared {place : List Path.Part}
    (makes : MakesInventory system settings place) (other : List Path.Part) :
    (prepared system settings).find? other =
      if other = place then some (.text "") else system.find? other := by
  rcases makes.ready with ⟨catalog, path, ready, rfl⟩
  have admitted : system.admits path = true :=
    FileSystem.admits_iff.mpr ⟨makes.missing, makes.housed⟩
  rw [ready.prepared_eq, FileSystem.openOrCreate_eq, if_pos admitted]
  exact FileSystem.find?_touch makes.missing makes.housed other

theorem fst_openDatabases (system : FileSystem) (settings : Settings) :
    (openDatabases system settings).1 = prepared system settings := by
  rcases exists_ready_or_refused system settings with
    ⟨catalog, inventory, ready⟩ | ⟨failure, first, refused⟩
  · rw [ready.openDatabases_eq, ready.prepared_eq]
  · rw [refused, prepared_of_not_makes]
    intro place makes
    rcases makes.ready with ⟨catalog, path, ready, -⟩
    rw [ready.findSome?_obstacle?] at first
    contradiction

/-- Behind the databases no file changes. -/
theorem fst_start (system : FileSystem) (settings : Settings) :
    (start system settings).1 = prepared system settings := by
  rw [← fst_openDatabases, start]

/-- There is one place at most at which an inventory is made. -/
theorem MakesInventory.unique {place other : List Path.Part}
    (first : MakesInventory system settings place)
    (second : MakesInventory system settings other) : place = other := by
  rcases first.ready with ⟨catalog, path, named, rfl⟩
  rcases second.ready with ⟨again, otherPath, otherNamed, rfl⟩
  cases named.inventoryUri.symm.trans otherNamed.inventoryUri
  rfl

/-- After the opening one finds what was there before, and an empty file where the
inventory is made. -/
theorem find?_start_eq_some_iff {place : List Path.Part} {file : File} :
    (start system settings).1.find? place = some file ↔
      system.find? place = some file ∨
        MakesInventory system settings place ∧ file = .text "" := by
  by_cases makes : ∃ made, MakesInventory system settings made
  · rcases makes with ⟨made, makes⟩
    rw [fst_start, makes.find?_prepared]
    by_cases same : place = made
    · subst same
      simp [makes, makes.missing, eq_comm]
    · have elsewhere : ¬ MakesInventory system settings place := fun other =>
        same (other.unique makes)
      simp [same, elsewhere]
  · have never : ∀ made, ¬ MakesInventory system settings made := fun made found =>
      makes ⟨made, found⟩
    rw [fst_start, prepared_of_not_makes never]
    simp [never]

/-! ## The first obstacle -/

/-- After the databases the columns are loaded, and then the schemas are read. -/
theorem result_start (system : FileSystem) (settings : Settings) :
    (start system settings).2.result =
      (openDatabases system settings).2.bind fun (catalog, inventory, databases) =>
        (loadChoice (prepared system settings) settings).bind fun choice =>
          (databases.catalog.result.mapError .storage).map fun known =>
            ⟨databases, known, choice, .empty, catalog, inventory⟩ := by
  rw [← fst_openDatabases]
  simp only [start]
  generalize openDatabases system settings = opening
  rcases opening with ⟨after, outcome⟩
  cases outcome with
  | error failure => rfl
  | ok found =>
      simp only [bind, Except.bind]
      cases loadChoice after settings with
      | error failure => rfl
      | ok choice =>
          simp only [pure, Except.pure, Noted.bind, Noted.ofExcept, ofDatabases,
            Noted.result_after, Noted.result_map, Noted.result_mapError, Except.map_map]

/-- The columns are loaded unless their file cannot be read or is no document of them. -/
theorem error?_loadChoice (system : FileSystem) (settings : Settings) :
    Except.error? (loadChoice (prepared system settings) settings) =
      Stage.ofColumns.findSome? (obstacle? system settings) := by
  simp only [loadChoice, Stage.ofColumns, List.findSome?_cons, List.findSome?_nil, obstacle?]
  cases settings.columnsFile with
  | none => rfl
  | some path =>
      simp only [Option.bind_eq_bind, Option.bind_some]
      cases (prepared system settings).readText path with
      | error failure => rfl
      | ok source =>
          simp only [bind, Except.bind, Except.mapError, Except.toOption, Option.bind_some]
          cases ColumnChoice.standardWith source <;> rfl

/-- The first stage that is stopped stops the opening. -/
theorem error?_result_start (system : FileSystem) (settings : Settings) :
    Except.error? (start system settings).2.result =
      Stage.all.findSome? (obstacle? system settings) := by
  rw [Stage.all, List.findSome?_append, List.findSome?_append, ← error?_openDatabases,
    ← error?_loadChoice, Option.or_assoc, result_start]
  cases opened : (openDatabases system settings).2 with
  | error failure => rfl
  | ok found =>
      rcases found with ⟨catalog, inventory, databases⟩
      rcases databases_of_openDatabases opened with ⟨ready, rfl⟩
      simp only [Except.bind, Except.error?, Option.none_or]
      cases loadChoice (prepared system settings) settings with
      | error failure => rfl
      | ok choice =>
          simp only [List.findSome?_cons, List.findSome?_nil, obstacle?, ready.catalogUri,
            ready.inventoryUri, Except.toOption, Option.bind_eq_bind, Option.bind_some]
          cases (Databases.catalog
            ⟨system.databaseAt catalog, system.databaseAt inventory⟩).result <;> rfl

/-- A session is opened unless a stage is stopped, and then the first such stage is what
is reported.  In either case every file stays as it is.  The one file that may be new is
empty and at the path of the inventory, and it is new exactly if both locations are valid,
the card catalog could be opened, and nothing stood there in a directory that exists.  In
particular nothing is made when the file of the card catalog is missing, wherever the
inventory is. -/
theorem opening_reports_first_obstacle_and_makes_inventory (system : FileSystem)
    (settings : Settings) :
    (∀ failure, (start system settings).2.result = .error failure ↔
      Stage.all.findSome? (obstacle? system settings) = some failure) ∧
    ((∃ session, (start system settings).2.result = .ok session) ↔
      ∀ stage, obstacle? system settings stage = none) ∧
    (∀ place file, (start system settings).1.find? place = some file ↔
      system.find? place = some file ∨
        MakesInventory system settings place ∧ file = .text "") ∧
    (∀ place other, MakesInventory system settings place →
      MakesInventory system settings other → place = other) ∧
    ∀ path, settings.catalogLocation = .ok (.file path) →
      system.find? (Path.place path) = none → (start system settings).1 = system := by
  have reported := error?_result_start system settings
  refine ⟨?_, ?_, fun _ _ => find?_start_eq_some_iff, fun _ _ => MakesInventory.unique, ?_⟩
  · intro failure
    rw [← reported]
    cases (start system settings).2.result <;> simp [Except.error?]
  · rw [← Except.error?_eq_none_iff, reported, List.findSome?_eq_none_iff]
    exact forall_congr' fun stage => by simp [stage.mem_all]
  · intro path named missing
    rw [fst_start]
    apply prepared_of_not_makes
    intro place makes
    rcases makes.ready with ⟨catalog, other, ready, -⟩
    cases ready.catalogUri.symm.trans named
    have existing := ready.primary
    simp [FileSystem.refusesExisting?, FileSystem.holds, missing] at existing

/-- The inventory is made, next to a note that stays, although the columns are then found
to be missing. -/
theorem inventory_made_before_missing_columns :
    let system : FileSystem :=
      ⟨[(["cards.db".toList], .database .empty),
        (["lists".toList, "wanted".toList], .text "Forest")]⟩
    let settings : Settings := ⟨" sqlite:///cards.db", "lists/owned.db", some "columns.toml"⟩
    let place : List Path.Part := ["lists".toList, "owned.db".toList]
    (start system settings).2.result = .error (.file .notFound) ∧
      MakesInventory system settings place ∧
      (start system settings).1.find? place = some (.text "") ∧
      (start system settings).1.find? ["lists".toList, "wanted".toList] = some (.text "Forest") ∧
      (start system { settings with catalogUri := "lists/owned.db" }).1 = system := by
  intro system settings place
  obtain ⟨reports, -, finds, -, -⟩ :=
    opening_reports_first_obstacle_and_makes_inventory system settings
  have makes : MakesInventory system settings place :=
    ⟨⟨.file "cards.db", "lists/owned.db", ⟨by decide, by decide, rfl⟩,
      rfl⟩, rfl, rfl⟩
  have missing : Stage.all.findSome? (obstacle? system settings) = some (.file .notFound) := by
    decide
  rcases opening_reports_first_obstacle_and_makes_inventory system
    { settings with catalogUri := "lists/owned.db" } with ⟨-, -, -, -, untouched⟩
  exact ⟨(reports _).mpr missing, makes, (finds _ _).mpr (.inr ⟨makes, rfl⟩),
    (finds _ _).mpr (.inl rfl),
    untouched "lists/owned.db" (by decide) rfl⟩

end CardShell.Session
