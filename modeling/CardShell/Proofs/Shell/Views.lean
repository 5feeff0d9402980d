import CardShell.Proofs.Outcome
import CardShell.Proofs.Rendering.Details
import CardShell.Proofs.Shell.Run

/-!
# Chosen columns are only a view

What a session finds does not depend on the columns that are chosen; the choice is applied
to what was found.  Two shells that differ in their choice alone therefore go through the
same lines side by side, whatever else is chosen on either side in between: they fail
alike, hold the same rows, and show the same values under every column that both show.
-/

namespace CardShell

/-- Two outcomes fail alike, or both succeed and their values are related. -/
inductive Alike {α β : Type} (related : α → β → Prop) : Except Failure α → Except Failure β → Prop
  | failed (failure : Failure) : Alike related (.error failure) (.error failure)
  | succeeded {one : α} {other : β} : related one other → Alike related (.ok one) (.ok other)

/-- Two views of one outcome are alike. -/
theorem Alike.map {α β γ : Type} {related : α → β → Prop} {first : γ → α} {second : γ → β}
    {outcome : Except Failure γ}
    (views : ∀ value, outcome = .ok value → related (first value) (second value)) :
    Alike related (outcome.map first) (outcome.map second) := by
  cases outcome with
  | error failure => exact .failed failure
  | ok value => exact .succeeded (views value rfl)

/-! ## Details -/

namespace Cursor

/-- The row at an index, with its entity. -/
def locate (cursor : Cursor) (index : Int) : Except Failure (Entity × Row) :=
  match cursor.entity with
  | none => .error .noResults
  | some entity =>
      match cursor.row? index with
      | none => .error (.outOfRange index cursor.rows.length)
      | some row => .ok (entity, row)

/-- A detail is a view of the row at the index. -/
theorem inspect_eq_map_locate (cursor : Cursor) (index : Int) (choice : ColumnChoice) :
    cursor.inspect index choice =
      (cursor.locate index).map fun found => detailOf choice found.1 found.2 := by
  rw [inspect, locate]
  cases cursor.entity with
  | none => rfl
  | some entity => cases cursor.row? index <;> rfl

/-- A row that is located is one of the rows that are held. -/
theorem mem_of_locate {cursor : Cursor} {index : Int} {entity : Entity} {row : Row}
    (located : cursor.locate index = .ok (entity, row)) :
    cursor.entity = some entity ∧ row ∈ cursor.rows := by
  rw [locate] at located
  cases held : cursor.entity with
  | none =>
      rw [held] at located
      contradiction
  | some found =>
      rw [held] at located
      cases index with
      | ofNat place =>
          cases known : cursor.rows[place]? with
          | none =>
              have missing : cursor.row? (Int.ofNat place) = none := known
              rw [missing] at located
              contradiction
          | some other =>
              have present : cursor.row? (Int.ofNat place) = some other := known
              rw [present] at located
              obtain ⟨rfl, rfl⟩ := Prod.mk.inj (Except.ok.inj located)
              exact ⟨rfl, List.mem_of_getElem? known⟩
      | negSucc place => contradiction

/-- Two details of one row of a cursor: each has the entries that its choice shows, and
under the columns that both show they have the same values, and the same entries in the
same order. -/
inductive Views (cursor : Cursor) (first second : ColumnChoice) : Detail → Detail → Prop
  | of {entity : Entity} {row : Row} (held : cursor.entity = some entity)
      (member : row ∈ cursor.rows)
      (value : ∀ column, first.shows entity.name column → second.shows entity.name column →
        (detailOf first entity row).get? column = (detailOf second entity row).get? column)
      (entries :
        ((detailOf first entity row).entries.filter fun entry =>
            second.shows entity.name entry.1) =
          (detailOf second entity row).entries.filter fun entry =>
            first.shows entity.name entry.1) :
      Views cursor first second (detailOf first entity row) (detailOf second entity row)

/-- The details of a row under two choices are two views of it. -/
theorem views_detailOf {cursor : Cursor} {index : Int} {found : Entity × Row}
    (located : cursor.locate index = .ok found) (first second : ColumnChoice) :
    Views cursor first second (detailOf first found.1 found.2)
      (detailOf second found.1 found.2) := by
  obtain ⟨held, member⟩ := mem_of_locate located
  refine .of held member ?_ ?_
  · intro column shown shownToo
    rw [get?_detailOf, get?_detailOf, if_pos shown, if_pos shownToo]
  · simp only [detailOf, List.filter_filter, Bool.and_comm]

end Cursor

/-! ## Grids -/

namespace Rendering

/-- The cell in a row and a column. -/
def Grid.cell? (grid : Grid) (row column : Nat) : Option Cell :=
  grid.rows[row]?.bind fun cells => cells[column]?

/-- The first cell of a row holds its index. -/
theorem cell?_resultGrid_zero (columns : List String) (rows : List Row) (index : Nat) :
    (resultGrid columns rows).cell? index 0 =
      rows[index]?.map fun _ => .right (Text.ofNat index) := by
  rw [Grid.cell?, getElem?_rows_resultGrid]
  cases rows[index]? <;> rfl

/-- Behind the index of its row, a cell holds the value under the name of its column. -/
theorem cell?_resultGrid (columns : List String) (rows : List Row) (index position : Nat) :
    (resultGrid columns rows).cell? index (position + 1) =
      rows[index]?.bind fun row => columns[position]?.map fun column =>
        valueCell (row.get? column) := by
  rw [Grid.cell?, getElem?_rows_resultGrid]
  cases rows[index]? with
  | none => rfl
  | some row => exact List.getElem?_map

/-- Two reports on the same rows of an entity, drawn with the same numbers of the rows and
the same values under every column that both have. -/
structure Views (one other : Report) : Prop where
  entity : one.entity = other.entity
  side : one.side = other.side
  rows : one.rows = other.rows
  number : ∀ index, (resultGrid one.columns one.rows).cell? index 0 =
    (resultGrid other.columns other.rows).cell? index 0
  value : ∀ (index position place : Nat) (column : String),
    one.columns[position]? = some column → other.columns[place]? = some column →
    (resultGrid one.columns one.rows).cell? index (position + 1) =
      (resultGrid other.columns other.rows).cell? index (place + 1)

theorem Views.of_columns (entity : Entity) (side : Side) (rows : List Row)
    (first second : List String) :
    Views ⟨entity, side, first, rows⟩ ⟨entity, side, second, rows⟩ where
  entity := rfl
  side := rfl
  rows := rfl
  number index := by
    rw [cell?_resultGrid_zero, cell?_resultGrid_zero]
  value index position place column here there := by
    rw [cell?_resultGrid, cell?_resultGrid]
    simp only [here, there]

end Rendering

/-! ## Sessions -/

namespace Session

variable {δ : Type}

/-- The row at a written index, with its entity. -/
def locate (session : Session δ) (input : String) : Except Failure (Entity × Row) :=
  let text := Text.trim input.toList
  match Text.int64? text with
  | some index => session.cursor.locate index
  | none => .error (.invalidRowNumber (String.ofList text))

theorem exists_locate_of_locate {session : Session δ} {input : String} {found : Entity × Row}
    (located : session.locate input = .ok found) :
    ∃ index, session.cursor.locate index = .ok found := by
  rw [locate] at located
  cases number : Text.int64? (Text.trim input.toList) with
  | none =>
      rw [number] at located
      contradiction
  | some index =>
      rw [number] at located
      exact ⟨index, located⟩

theorem row_eq_map_locate (session : Session δ) (input : String) :
    session.row input =
      (session.locate input).map fun found => Cursor.detailOf session.choice found.1 found.2 := by
  rw [row, locate]
  cases Text.int64? (Text.trim input.toList) with
  | none => rfl
  | some index => exact session.cursor.inspect_eq_map_locate index session.choice

/-- The entity that a name stands for. -/
def entityOf (session : Session δ) (input : String) : Except Failure Entity :=
  match session.catalog.get? (Text.trimString input) with
  | some entity => .ok entity
  | none => .error (.entityNotFound (Text.trimString input))

theorem columns_eq_map_entityOf (session : Session δ) (input : String) :
    session.columns input =
      (session.entityOf input).map fun entity => ⟨entity, session.choice.chosen? entity.name⟩ := by
  rw [columns, entityOf]
  cases session.catalog.get? (Text.trimString input) <;> rfl

end Session

namespace Shell

variable {δ : Type} [Engine δ]

/-- The shell with other columns chosen. -/
def choosing (shell : Shell δ) (choice : ColumnChoice) : Shell δ :=
  { shell with session := { shell.session with choice } }

/-! ## One line -/

/-- What two shells make of a line, up to the columns that they show. -/
structure AnswersAlike (first second : Shell δ) (input : String) : Prop where
  /-- The same notices are given. -/
  notices : (first.perform (Command.read input)).2.notices =
    (second.perform (Command.read input)).2.notices
  /-- The line fails in both with the same failure, or in neither, and decides the same. -/
  outcome : Alike (fun one other => one.1 = other.1)
    (first.perform (Command.read input)).2.result (second.perform (Command.read input)).2.result
  report : ∀ instruction, Command.read input = .query instruction →
    Alike Rendering.Views (first.session.query instruction).2.result
      (second.session.query instruction).2.result
  detail : ∀ number, Command.read input = .row number →
    Alike (first.session.cursor.Views first.session.choice second.session.choice)
      (first.session.row number) (second.session.row number)
  columns : ∀ name, Command.read input = .columns name →
    Alike (fun one other => one.entity = other.entity) (first.session.columns name)
      (second.session.columns name)
  /-- Any other line is answered in the same words. -/
  words : (∀ instruction, Command.read input ≠ .query instruction) →
    (∀ number, Command.read input ≠ .row number) →
    (∀ name, Command.read input ≠ .columns name) →
    (first.perform (Command.read input)).2 = (second.perform (Command.read input)).2

/-- A command decides the same under every choice, and fails under none or all. -/
theorem alike_perform_choosing (shell : Shell δ) (choice : ColumnChoice) (command : Command) :
    Alike (fun one other => one.1 = other.1) (shell.perform command).2.result
      ((shell.choosing choice).perform command).2.result := by
  cases command with
  | query instruction =>
      change Alike _ (((shell.session.evaluate instruction).result.map _).map _)
        (((shell.session.evaluate instruction).result.map _).map _)
      rw [Except.map_map, Except.map_map]
      apply Alike.map
      exact fun _ _ => rfl
  | row number =>
      change Alike _ ((shell.session.row number).map _)
        (((shell.choosing choice).session.row number).map _)
      rw [Session.row_eq_map_locate, Session.row_eq_map_locate, Except.map_map, Except.map_map]
      apply Alike.map
      exact fun _ _ => rfl
  | columns name =>
      change Alike _ ((shell.session.columns name).map _)
        (((shell.choosing choice).session.columns name).map _)
      rw [Session.columns_eq_map_entityOf, Session.columns_eq_map_entityOf, Except.map_map,
        Except.map_map]
      apply Alike.map
      exact fun _ _ => rfl
  | database name =>
      have same : (shell.choosing choice).launch name = shell.launch name :=
        rfl
      have answer (shell : Shell δ) : (shell.perform (.database name)).2.result =
          (shell.launch name).map fun text => (.goOn, text) := by
        simp only [perform, reply, Noted.ofExcept]
      rw [answer, answer, same]
      apply Alike.map
      exact fun _ _ => rfl
  | _ => exact .succeeded rfl

/-- A line is answered alike under every choice. -/
theorem answersAlike_choosing (shell : Shell δ) (choice : ColumnChoice) (input : String) :
    shell.AnswersAlike (shell.choosing choice) input where
  notices := by
    cases Command.read input <;> rfl
  outcome := shell.alike_perform_choosing choice (Command.read input)
  report instruction _ := by
    change Alike _ ((shell.session.evaluate instruction).result.map _)
      ((shell.session.evaluate instruction).result.map _)
    apply Alike.map
    exact fun found _ =>
      Rendering.Views.of_columns found.1.selection.entity found.1.side found.2 _ _
  detail number _ := by
    rw [Session.row_eq_map_locate, Session.row_eq_map_locate]
    apply Alike.map
    intro found located
    obtain ⟨index, located⟩ := Session.exists_locate_of_locate located
    exact Cursor.views_detailOf located shell.session.choice choice
  columns name _ := by
    rw [Session.columns_eq_map_entityOf, Session.columns_eq_map_entityOf]
    apply Alike.map
    exact fun _ _ => rfl
  words query row columns := by
    cases command : Command.read input with
    | query instruction => exact absurd command (query instruction)
    | row number => exact absurd command (row number)
    | columns name => exact absurd command (columns name)
    | _ => rfl

/-- A command changes a shell in the same way under every choice. -/
theorem perform_choosing_fst (shell : Shell δ) (choice : ColumnChoice) (command : Command) :
    ((shell.choosing choice).perform command).1 = (shell.perform command).1.choosing choice := by
  cases command with
  | query instruction =>
      have same : (shell.choosing choice).session.evaluate instruction =
          shell.session.evaluate instruction :=
        rfl
      rw [perform_query_fst, perform_query_fst]
      simp only [Session.query, Noted.result_map, same]
      cases (shell.session.evaluate instruction).result <;> rfl
  | _ => rfl

/-! ## Histories -/

/-- What happens to a shell: a line is given, or columns are chosen. -/
inductive Event where
  | line (input : String)
  | choice (chosen : ColumnChoice)
deriving DecidableEq, Repr

/-- The line that is given, if one is. -/
def Event.line? : Event → Option String
  | .line input => some input
  | .choice _ => none

/-- The shell after something has happened. -/
def meet (shell : Shell δ) : Event → Shell δ
  | .line input => (shell.runLine .unlimited input).shell
  | .choice chosen => shell.choosing chosen

/-- The shell after all that has happened. -/
def afterEvents (shell : Shell δ) (events : List Event) : Shell δ :=
  events.foldl meet shell

/-- Up to the choice, a shell comes to what its lines alone lead to. -/
theorem afterEvents_choosing (shell : Shell δ) (events : List Event) (choice : ColumnChoice) :
    (shell.afterEvents events).choosing choice =
      (shell.choosing choice).afterLines (events.filterMap Event.line?) := by
  induction events generalizing shell with
  | nil => rfl
  | cons event events later =>
      change ((shell.meet event).afterEvents events).choosing choice = _
      rw [later]
      cases event with
      | line input =>
          change ((shell.perform (Command.read input)).1.choosing choice).afterLines _ = _
          rw [← perform_choosing_fst]
          rfl
      | choice chosen => rfl

/-- Two shells that differ in nothing but the chosen columns, and that are given the same
lines, differ in nothing else behind them, whatever columns are chosen on either side in
between.  In particular they hold the same rows of the same entity, and answer the next
line alike. -/
theorem choice_changes_only_views (shell : Shell δ) (first second : ColumnChoice)
    (events others : List Event)
    (same : events.filterMap Event.line? = others.filterMap Event.line?) :
    ∃ one other : Shell δ,
      (shell.choosing first).afterEvents events = one ∧
      (shell.choosing second).afterEvents others = other ∧
      other = one.choosing other.session.choice ∧
      other.session.cursor = one.session.cursor ∧
      ∀ input, one.AnswersAlike other input := by
  have meets (choice : ColumnChoice) :
      ((shell.choosing first).afterEvents events).choosing choice =
        ((shell.choosing second).afterEvents others).choosing choice := by
    rw [afterEvents_choosing, afterEvents_choosing, same]
    rfl
  generalize (shell.choosing first).afterEvents events = one at meets
  generalize (shell.choosing second).afterEvents others = other at meets
  have differ : other = one.choosing other.session.choice :=
    (meets other.session.choice).symm
  refine ⟨one, other, rfl, rfl, differ, ?_, ?_⟩
  · rw [differ]
    rfl
  · intro input
    rw [differ]
    exact one.answersAlike_choosing other.session.choice input

/-- A thing with a name and a power, of which one side shows the name and the other both,
as chosen behind the query there and in front of it here. -/
theorem ring_under_two_choices :
    let things : Database.Table :=
      ⟨"things", [⟨"name", .text⟩, ⟨"power", .integer⟩], [[.text "ring", .integer 1]]⟩
    let shell : Shell Handle :=
      { session :=
          ⟨⟨.database .empty, .database (.ofTables [things] [])⟩,
            Catalog.empty.insert ⟨"things", ["name", "power"]⟩, .empty, .empty, .memory,
            .memory⟩ }
    let events : List Event :=
      [.choice (.set .empty "things" ["power", "nope", "name"]), .line "query things",
        .line "show 9"]
    let others : List Event :=
      [.line "query things", .line "show 9", .choice (.set .empty "things" ["name"])]
    events.filterMap Event.line? = others.filterMap Event.line? ∧
      ∃ one other : Shell Handle,
        (shell.choosing .standard).afterEvents events = one ∧
        (shell.choosing .empty).afterEvents others = other ∧
        other.session.cursor = one.session.cursor ∧
        one.session.row "0" = .ok ⟨[("name", .text "ring"), ("power", .integer 1)]⟩ ∧
        other.session.row "0" = .ok ⟨[("name", .text "ring")]⟩ ∧
        one.AnswersAlike other "show 0" := by
  intro things shell events others
  have same : events.filterMap Event.line? = others.filterMap Event.line? := by
    decide
  obtain ⟨one, other, first, second, -, held, alike⟩ :=
    choice_changes_only_views shell .standard .empty events others same
  refine ⟨same, one, other, first, second, held, ?_, ?_, alike "show 0"⟩
  · rw [← first]
    decide +kernel
  · rw [← second]
    decide +kernel

end Shell

end CardShell
