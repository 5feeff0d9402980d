import CardShell.Shell
import Mathlib

/-!
# Answering lines

What one line does is said once: a query that succeeds replaces the last result,
and every other line leaves the shell as it is.  On an output that takes
everything, a line always adds its text, and a run over lines goes through them
one after the other until one leaves.
-/

namespace CardShell

/-! ## Queries -/

/-- Only a name that no entity has fails to be selected. -/
theorem Catalog.eq_of_select_eq_error {catalog : Catalog} {name : String} {clauses : List Clause}
    {failure : Failure} (failed : catalog.select name clauses = .error failure) :
    failure = .entityNotFound name := by
  rw [select] at failed
  cases found : catalog.get? name with
  | none =>
      rw [found] at failed
      exact (Except.error.inj failed).symm
  | some entity =>
      rw [found] at failed
      contradiction

namespace Session

variable {δ : Type} [Engine δ]

/-- A query that succeeds is remembered, and one that fails changes nothing. -/
theorem query_fst (session : Session δ) (input : String) :
    (session.query input).1 =
      match (session.query input).2.result with
      | .ok report => session.record report.entity report.rows
      | .error _ => session := by
  simp only [query, Noted.result_map]
  cases (session.evaluate input).result with
  | ok outcome => rfl
  | error failure => rfl

/-- An instruction is read, its selection is bound, and the rows are fetched; the
first of these that fails is the failure. -/
theorem result_evaluate (session : Session δ) (input : String) :
    (session.evaluate input).result =
      ((Instruction.read input).result.mapError .instruction).bind fun instruction =>
        (session.catalog.selectInstruction instruction).bind fun selection =>
          ((session.databases.bind selection).execute.mapError .storage).map fun rows =>
            (session.databases.bind selection, rows) := by
  rw [evaluate]
  obtain ⟨notices, result⟩ := Instruction.read input
  cases result with
  | error failure => rfl
  | ok instruction =>
      simp only [Noted.mapError, Noted.bind, Except.mapError, Noted.result_after, Noted.ofExcept,
        Except.bind]
      cases session.catalog.selectInstruction instruction with
      | error failure => rfl
      | ok selection =>
          cases outcome : (session.databases.bind selection).execute <;>
            simp [outcome, bind, Except.bind, Except.map, pure, Except.pure]

/-- No query fails as a file does. -/
theorem result_evaluate_ne_file (session : Session δ) (input : String) (failure : FileError) :
    (session.evaluate input).result ≠ .error (.file failure) := by
  rw [result_evaluate]
  cases (Instruction.read input).result with
  | error error => simp [Except.mapError, Except.bind]
  | ok instruction =>
      cases selected : session.catalog.selectInstruction instruction with
      | error other =>
          rw [Catalog.eq_of_select_eq_error selected] at selected
          simp [selected, Except.mapError, Except.bind]
      | ok selection =>
          cases outcome : (session.databases.bind selection).execute <;>
            simp [selected, outcome, Except.mapError, Except.bind, Except.map]

omit [Engine δ] in
theorem databasePath_ne_file (session : Session δ) (input : String) (failure : FileError) :
    session.databasePath input ≠ .error (.file failure) := by
  simp only [databasePath]
  split
  · simp
  · split <;> simp

end Session

namespace Shell

variable {δ : Type} [Engine δ]

/-! ## Commands -/

/-- A query changes the shell as it changes the session. -/
theorem perform_query_fst (shell : Shell δ) (instruction : String) :
    (shell.perform (.query instruction)).1 =
      match (shell.session.query instruction).2.result with
      | .ok report => { shell with session := shell.session.record report.entity report.rows }
      | .error _ => shell := by
  change { shell with session := (shell.session.query instruction).1 } = _
  rw [Session.query_fst]
  cases (shell.session.query instruction).2.result <;> rfl

/-- Only a query changes the shell. -/
theorem perform_fst_of_ne_query (shell : Shell δ) {command : Command}
    (other : ∀ instruction, command ≠ .query instruction) : (shell.perform command).1 = shell := by
  cases command with
  | query instruction => exact absurd rfl (other instruction)
  | _ => rfl

/-- A command that fails changes nothing. -/
theorem perform_fst_of_error (shell : Shell δ) {command : Command} {failure : Failure}
    (failed : (shell.perform command).2.result = .error failure) :
    (shell.perform command).1 = shell := by
  cases command with
  | query instruction =>
      rw [perform_query_fst]
      cases outcome : (shell.session.query instruction).2.result with
      | ok report => simp [perform, outcome, Except.map] at failed
      | error other => rfl
  | _ => rfl

/-- No command fails as a file does, so the shell never takes a failure of a
command for one of its output. -/
theorem perform_ne_file (shell : Shell δ) (command : Command) (failure : FileError) :
    (shell.perform command).2.result ≠ .error (.file failure) := by
  cases command with
  | query instruction =>
      have notFile := shell.session.result_evaluate_ne_file instruction failure
      simp only [perform, Session.query, Noted.result_map]
      cases outcome : (shell.session.evaluate instruction).result with
      | ok found => simp [Except.map]
      | error other =>
          rw [outcome] at notFile
          simpa [Except.map] using notFile
  | row number =>
      simp only [perform, reply, Noted.ofExcept, Session.row, Session.rowAt, Cursor.inspect]
      split
      · split
        · simp [Except.map]
        · split <;> simp [Except.map]
      · simp [Except.map]
  | columns entity =>
      simp only [perform, reply, Noted.ofExcept, Session.columns]
      split <;> simp [Except.map]
  | database name =>
      simp only [perform, reply, Noted.ofExcept, launch, startOn]
      have notFile := shell.session.databasePath_ne_file name failure
      cases path : shell.session.databasePath name with
      | error other =>
          rw [path] at notFile
          simpa [bind, Except.bind, Except.map] using notFile
      | ok found =>
          simp only [bind, Except.bind]
          split <;> simp [Except.map]
  | _ => simp [perform, reply, Noted.ofExcept]

/-- An answer that goes on, whatever it says. -/
theorem goOn_of_map {α : Type} {outcome : Except Failure α} {say : α → String}
    {control : Control} {text : String}
    (ok : (outcome.map fun value => (Control.goOn, say value)) = .ok (control, text)) :
    control = .goOn := by
  cases outcome with
  | ok value => exact (Prod.mk.inj (Except.ok.inj ok)).1.symm
  | error failure => contradiction

/-- Only the command to leave decides to leave. -/
theorem control_of_perform {shell : Shell δ} {command : Command} {control : Control}
    {text : String} (ok : (shell.perform command).2.result = .ok (control, text)) :
    control = if command = .exit then .leave else .goOn := by
  cases command with
  | query instruction => exact goOn_of_map ok
  | row number => exact goOn_of_map ok
  | columns entity => exact goOn_of_map ok
  | database name => exact goOn_of_map ok
  | _ => exact (Prod.mk.inj (Except.ok.inj ok)).1.symm

/-! ## Lines -/

/-- The words that answer a command. -/
def spoken : Except Failure (Control × String) → String
  | .ok (_, text) => text
  | .error failure => line ("Error: " ++ failure.message)

/-- What a line decides. -/
def decision (input : String) : Control :=
  if Command.read input = .exit then .leave else .goOn

/-- What is written in front of an answer. -/
def echoed (echo : Bool) (input : String) : String :=
  if echo then line (prompt ++ input) else ""

theorem decision_eq_leave_iff {input : String} :
    decision input = .leave ↔ Command.read input = .exit := by
  simp [decision]

/-- Every failure but one of the output is put into words. -/
theorem deliver_error {failure : Failure} (notFile : ∀ error, failure ≠ .file error) (sink : Sink) :
    deliver sink (.error failure) =
      (sink.write (line ("Error: " ++ failure.message))).map fun sink => (.goOn, sink) := by
  cases failure with
  | file error => exact absurd rfl (notFile error)
  | _ => rfl

/-- On an output that takes everything, a line always adds its words, and only
the line itself decides to leave. -/
theorem runLine_unlimited (shell : Shell δ) (written input : String) :
    shell.runLine ⟨written, none⟩ input =
      ⟨(shell.perform (Command.read input)).1, (shell.perform (Command.read input)).2.notices,
        .ok (decision input,
          ⟨written ++ spoken (shell.perform (Command.read input)).2.result, none⟩)⟩ := by
  have notFile := shell.perform_ne_file (Command.read input)
  simp only [runLine]
  cases outcome : (shell.perform (Command.read input)).2.result with
  | ok answer =>
      obtain ⟨control, text⟩ := answer
      rw [control_of_perform outcome]
      rfl
  | error failure =>
      have goesOn : decision input = .goOn := by
        rw [decision, if_neg]
        intro leaves
        rw [leaves] at outcome
        contradiction
      rw [outcome] at notFile
      rw [deliver_error fun error same => notFile error (by rw [same]), goesOn]
      rfl

/-! ## Several lines -/

/-- The lines that are answered when nothing stops the run but leaving. -/
def reached : List String → List String
  | [] => []
  | input :: inputs => if Command.read input = .exit then [input] else input :: reached inputs

theorem reached_prefix (inputs : List String) : reached inputs <+: inputs := by
  induction inputs with
  | nil => exact List.prefix_rfl
  | cons input inputs later =>
      rw [reached]
      split
      · exact ⟨inputs, rfl⟩
      · exact (List.prefix_append_right_inj [input]).mpr later

/-- The shell after lines, each of them answered. -/
def afterLines (shell : Shell δ) (inputs : List String) : Shell δ :=
  inputs.foldl (fun shell input => (shell.perform (Command.read input)).1) shell

/-- What a line adds to an output that takes everything. -/
def added (echo : Bool) (shell : Shell δ) (input : String) : String :=
  echoed echo input ++ spoken (shell.perform (Command.read input)).2.result

/-- When the output is full before a line is answered, the run ends there. -/
theorem runLines_cons_of_full {sink : Sink} {failure : FileError} {echo : Bool} {input : String}
    (full : sink.write (echoed echo input) = .error failure) (shell : Shell δ)
    (inputs : List String) :
    shell.runLines echo sink (input :: inputs) = ⟨shell, .fail failure⟩ := by
  rw [echoed] at full
  simp only [runLines, full]

/-- A line that goes on is followed by the lines behind it. -/
theorem runLines_cons_of_goOn {sink next after : Sink} {echo : Bool} {input : String}
    {shell : Shell δ} (wrote : sink.write (echoed echo input) = .ok next)
    (goesOn : (shell.runLine next input).outcome.result = .ok (.goOn, after))
    (inputs : List String) :
    shell.runLines echo sink (input :: inputs) =
      ⟨((shell.runLine next input).shell.runLines echo after inputs).shell,
        ((shell.runLine next input).shell.runLines echo after inputs).outcome.after
          (shell.runLine next input).outcome.notices⟩ := by
  rw [echoed] at wrote
  simp only [runLines, wrote, goesOn]

/-- A line that does not go on ends the run. -/
theorem runLines_cons_of_end {sink next : Sink} {echo : Bool} {input : String}
    {shell : Shell δ} (wrote : sink.write (echoed echo input) = .ok next)
    (ends : ∀ after, (shell.runLine next input).outcome.result ≠ .ok (.goOn, after))
    (inputs : List String) :
    shell.runLines echo sink (input :: inputs) = shell.runLine next input := by
  rw [echoed] at wrote
  simp only [runLines, wrote]

/-- On an output that takes everything, a line that leaves ends the run. -/
theorem runLines_cons_of_exit {input : String} (leaves : Command.read input = .exit)
    (echo : Bool) (shell : Shell δ) (written : String) (inputs : List String) :
    shell.runLines echo ⟨written, none⟩ (input :: inputs) =
      ⟨(shell.perform (Command.read input)).1, (shell.perform (Command.read input)).2.notices,
        .ok (.leave, ⟨written ++ added echo shell input, none⟩)⟩ := by
  have wrote := Sink.write_unlimited written (echoed echo input)
  have answered := shell.runLine_unlimited (written ++ echoed echo input) input
  rw [decision_eq_leave_iff.mpr leaves, String.append_assoc] at answered
  rw [runLines_cons_of_end wrote, answered]
  · rfl
  · intro after
    rw [answered]
    simp

/-- On such an output any other line is followed by the lines behind it. -/
theorem runLines_cons_of_ne_exit {input : String} (stays : Command.read input ≠ .exit)
    (echo : Bool) (shell : Shell δ) (written : String) (inputs : List String) :
    shell.runLines echo ⟨written, none⟩ (input :: inputs) =
      ⟨((shell.perform (Command.read input)).1.runLines echo
          ⟨written ++ added echo shell input, none⟩ inputs).shell,
        ((shell.perform (Command.read input)).1.runLines echo
          ⟨written ++ added echo shell input, none⟩ inputs).outcome.after
            (shell.perform (Command.read input)).2.notices⟩ := by
  have wrote := Sink.write_unlimited written (echoed echo input)
  have answered := shell.runLine_unlimited (written ++ echoed echo input) input
  rw [decision, if_neg stays, String.append_assoc] at answered
  have goesOn := congrArg (fun run => run.outcome.result) answered
  rw [runLines_cons_of_goOn wrote goesOn, answered]
  rfl

/-- A run answers a first part of the lines. -/
theorem exists_shell_runLines (echo : Bool) (shell : Shell δ) (sink : Sink)
    (inputs : List String) :
    ∃ answered, answered <+: inputs ∧
      (shell.runLines echo sink inputs).shell = shell.afterLines answered := by
  induction inputs generalizing shell sink with
  | nil => exact ⟨[], List.prefix_rfl, rfl⟩
  | cons input inputs later =>
      cases wrote : sink.write (echoed echo input) with
      | error failure =>
          rw [runLines_cons_of_full wrote]
          exact ⟨[], List.nil_prefix, rfl⟩
      | ok next =>
          by_cases goesOn : ∃ after, (shell.runLine next input).outcome.result = .ok (.goOn, after)
          · obtain ⟨after, goesOn⟩ := goesOn
            obtain ⟨answered, part, result⟩ := later (shell.runLine next input).shell after
            rw [runLines_cons_of_goOn wrote goesOn]
            exact ⟨input :: answered, (List.prefix_append_right_inj [input]).mpr part, result⟩
          · rw [runLines_cons_of_end wrote (not_exists.mp goesOn)]
            exact ⟨[input], ⟨inputs, rfl⟩, rfl⟩

/-- When the output takes everything, all lines up to the one that leaves are
answered. -/
theorem shell_runLines_unlimited (echo : Bool) (shell : Shell δ) (written : String)
    (inputs : List String) :
    (shell.runLines echo ⟨written, none⟩ inputs).shell = shell.afterLines (reached inputs) := by
  induction inputs generalizing shell written with
  | nil => rfl
  | cons input inputs later =>
      by_cases leaves : Command.read input = .exit
      · rw [runLines_cons_of_exit leaves, reached, if_pos leaves]
        rfl
      · rw [runLines_cons_of_ne_exit leaves, reached, if_neg leaves]
        exact later _ _

/-- A run over lines that all stay goes on with the lines behind them. -/
theorem runLines_append {before : List String}
    (stays : ∀ input ∈ before, Command.read input ≠ .exit) (echo : Bool) (shell : Shell δ)
    (written : String) :
    ∃ notices text,
      (shell.runLines echo ⟨written, none⟩ before) =
        ⟨shell.afterLines before, notices, .ok (.goOn, ⟨written ++ text, none⟩)⟩ ∧
      ∀ rest, shell.runLines echo ⟨written, none⟩ (before ++ rest) =
        ⟨((shell.afterLines before).runLines echo ⟨written ++ text, none⟩ rest).shell,
          ((shell.afterLines before).runLines echo ⟨written ++ text, none⟩ rest).outcome.after
            notices⟩ := by
  induction before generalizing shell written with
  | nil =>
      exact ⟨[], "", by simp [runLines, afterLines, Noted.pure], by simp [afterLines]⟩
  | cons input before later =>
      have first := stays input List.mem_cons_self
      obtain ⟨notices, text, result, append⟩ :=
        later (fun other member => stays other (List.mem_cons_of_mem _ member))
          (shell.perform (Command.read input)).1 (written ++ added echo shell input)
      refine ⟨(shell.perform (Command.read input)).2.notices ++ notices,
        added echo shell input ++ text, ?_, ?_⟩
      · rw [runLines_cons_of_ne_exit first, result, String.append_assoc]
        rfl
      · intro rest
        rw [List.cons_append, runLines_cons_of_ne_exit first, append, String.append_assoc]
        simp [Noted.after, afterLines]

/-- The command to leave never goes on. -/
theorem runLine_ne_goOn {leaving : String} (leaves : Command.read leaving = .exit)
    (shell : Shell δ) (sink next : Sink) :
    (shell.runLine sink leaving).outcome.result ≠ .ok (.goOn, next) := by
  simp only [runLine, leaves, perform, reply, Noted.ofExcept, deliver]
  cases sink.write "" <;> simp [Except.map]

/-- Lines behind one that leaves are never answered. -/
theorem runLines_append_of_exit {before : List String} {leaving : String}
    (member : leaving ∈ before) (leaves : Command.read leaving = .exit) (echo : Bool)
    (shell : Shell δ) (sink : Sink) (rest : List String) :
    shell.runLines echo sink (before ++ rest) = shell.runLines echo sink before := by
  induction before generalizing shell sink with
  | nil => contradiction
  | cons input before later =>
      rw [List.cons_append]
      cases wrote : sink.write (echoed echo input) with
      | error failure => rw [runLines_cons_of_full wrote, runLines_cons_of_full wrote]
      | ok next =>
          by_cases goesOn : ∃ after, (shell.runLine next input).outcome.result = .ok (.goOn, after)
          · obtain ⟨after, goesOn⟩ := goesOn
            rcases List.mem_cons.mp member with rfl | behind
            · exact absurd goesOn (runLine_ne_goOn leaves shell next after)
            · rw [runLines_cons_of_goOn wrote goesOn, runLines_cons_of_goOn wrote goesOn,
                later behind]
          · rw [runLines_cons_of_end wrote (not_exists.mp goesOn),
              runLines_cons_of_end wrote (not_exists.mp goesOn)]

/-- A run over lines of which one leaves has left. -/
theorem result_runLines_of_exit {before : List String} {leaving : String}
    (member : leaving ∈ before) (leaves : Command.read leaving = .exit) (echo : Bool)
    (shell : Shell δ) (written : String) :
    ∃ sink, (shell.runLines echo ⟨written, none⟩ before).outcome.result = .ok (.leave, sink) := by
  induction before generalizing shell written with
  | nil => contradiction
  | cons input before later =>
      by_cases first : Command.read input = .exit
      · rw [runLines_cons_of_exit first]
        exact ⟨_, rfl⟩
      · rw [runLines_cons_of_ne_exit first]
        rcases List.mem_cons.mp member with rfl | behind
        · exact absurd leaves first
        · exact later behind _ _

/-- What a line adds to a run: its notices, its decision and its text. -/
structure Addition where
  notices : List Notice
  control : Control
  text : String
deriving DecidableEq, Repr

/-- What a line adds to a run that has come to a shell. -/
def addition (echo : Bool) (shell : Shell δ) (input : String) : Addition :=
  ⟨(shell.perform (Command.read input)).2.notices, decision input, added echo shell input⟩

/-- A run that goes on has something added to it, and one that has left has
not. -/
def Run.Adds (first : Run δ) : Option Addition → Run δ → Prop
  | some addition, second =>
      ∃ written, first.outcome.result = .ok (.goOn, ⟨written, none⟩) ∧
        second.outcome = ⟨first.outcome.notices ++ addition.notices,
          .ok (addition.control, ⟨written ++ addition.text, none⟩)⟩
  | none, second => (∃ sink, first.outcome.result = .ok (.leave, sink)) ∧ second = first

/-- A line behind lines that all stay is answered by the shell they come to. -/
theorem adds_runLines {before : List String}
    (stays : ∀ input ∈ before, Command.read input ≠ .exit) (echo : Bool) (shell : Shell δ)
    (written input : String) :
    (shell.runLines echo ⟨written, none⟩ before).Adds
      (some (addition echo (shell.afterLines before) input))
      (shell.runLines echo ⟨written, none⟩ (before ++ [input])) := by
  obtain ⟨notices, text, result, append⟩ := runLines_append stays echo shell written
  refine ⟨written ++ text, by rw [result], ?_⟩
  rw [result, append]
  by_cases leaves : Command.read input = .exit
  · rw [runLines_cons_of_exit leaves, addition, decision_eq_leave_iff.mpr leaves]
    rfl
  · rw [runLines_cons_of_ne_exit leaves, addition, decision, if_neg leaves]
    simp [runLines, Noted.pure, Noted.after]

/-- A line behind one that leaves adds nothing. -/
theorem adds_runLines_of_exit {before : List String} {leaving : String}
    (member : leaving ∈ before) (leaves : Command.read leaving = .exit) (echo : Bool)
    (shell : Shell δ) (written input : String) :
    (shell.runLines echo ⟨written, none⟩ before).Adds none
      (shell.runLines echo ⟨written, none⟩ (before ++ [input])) :=
  ⟨result_runLines_of_exit member leaves echo shell written,
    runLines_append_of_exit member leaves echo shell _ [input]⟩

end Shell

end CardShell
