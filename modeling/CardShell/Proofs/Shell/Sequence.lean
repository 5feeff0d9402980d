import CardShell.CommandLine
import CardShell.Proofs.Shell.Run

/-!
# Lines in sequence

A run over lines is composed of its lines.  Each is answered by the shell that the lines
in front of it leave behind, and its words are written behind theirs.  Whether a line
leaves is decided by the line alone, and nothing behind a line that leaves is looked at.
A command that fails is answered in words, so no batch of commands makes a program fail.
-/

namespace CardShell

namespace Shell

variable {δ : Type} [Engine δ]

/-! ## Composition of runs -/

/-- Go on where a run ended, unless it left or its output was full. -/
def Run.andThen (first : Run δ) (next : Shell δ → Sink → Run δ) : Run δ :=
  match first.outcome.result with
  | .ok (.goOn, sink) =>
      let rest := next first.shell sink
      ⟨rest.shell, rest.outcome.after first.outcome.notices⟩
  | _ => first

omit [Engine δ] in
theorem Run.andThen_of_goOn {first : Run δ} {sink : Sink}
    (goesOn : first.outcome.result = .ok (.goOn, sink)) (next : Shell δ → Sink → Run δ) :
    first.andThen next =
      ⟨(next first.shell sink).shell,
        (next first.shell sink).outcome.after first.outcome.notices⟩ := by
  simp only [andThen, goesOn]

omit [Engine δ] in
theorem Run.andThen_of_end {first : Run δ}
    (ends : ∀ sink, first.outcome.result ≠ .ok (.goOn, sink)) (next : Shell δ → Sink → Run δ) :
    first.andThen next = first := by
  rw [andThen]
  split
  · rename_i sink goesOn
    exact absurd goesOn (ends sink)
  · rfl

omit [Engine δ] in
/-- It does not matter where a run is cut. -/
theorem Run.andThen_assoc (first : Run δ) (second third : Shell δ → Sink → Run δ) :
    (first.andThen second).andThen third =
      first.andThen fun shell sink => (second shell sink).andThen third := by
  by_cases goesOn : ∃ sink, first.outcome.result = .ok (.goOn, sink)
  · obtain ⟨sink, goesOn⟩ := goesOn
    rw [andThen_of_goOn goesOn, andThen_of_goOn goesOn]
    generalize second first.shell sink = middle
    by_cases goesOnAgain : ∃ sink, middle.outcome.result = .ok (.goOn, sink)
    · obtain ⟨next, goesOnAgain⟩ := goesOnAgain
      have goesOnBehind :
          (Run.mk middle.shell (middle.outcome.after first.outcome.notices)).outcome.result =
            .ok (.goOn, next) :=
        goesOnAgain
      rw [andThen_of_goOn goesOnBehind, andThen_of_goOn goesOnAgain]
      simp only [Noted.after, List.append_assoc]
    · rw [andThen_of_end (by exact not_exists.mp goesOnAgain),
        andThen_of_end (not_exists.mp goesOnAgain)]
  · have ends := not_exists.mp goesOn
    rw [andThen_of_end ends, andThen_of_end ends, andThen_of_end ends]

/-- A line is answered, and the lines behind it are left to the shell behind it. -/
theorem runLines_cons {sink next : Sink} {echo : Bool} {input : String}
    (wrote : sink.write (echoed echo input) = .ok next) (shell : Shell δ)
    (inputs : List String) :
    shell.runLines echo sink (input :: inputs) =
      (shell.runLine next input).andThen fun shell sink => shell.runLines echo sink inputs := by
  by_cases goesOn : ∃ after, (shell.runLine next input).outcome.result = .ok (.goOn, after)
  · obtain ⟨after, goesOn⟩ := goesOn
    rw [runLines_cons_of_goOn wrote goesOn, Run.andThen_of_goOn goesOn]
  · have ends := not_exists.mp goesOn
    rw [runLines_cons_of_end wrote ends, Run.andThen_of_end ends]

/-- A run over lines in two parts is a run over the first part and then one over the
second. -/
theorem runLines_append_eq_andThen (echo : Bool) (shell : Shell δ) (sink : Sink)
    (first second : List String) :
    shell.runLines echo sink (first ++ second) =
      (shell.runLines echo sink first).andThen fun shell sink =>
        shell.runLines echo sink second := by
  induction first generalizing shell sink with
  | nil =>
      have empty : (shell.runLines echo sink []).outcome.result = .ok (.goOn, sink) :=
        rfl
      rw [List.nil_append, Run.andThen_of_goOn empty]
      rfl
  | cons input first later =>
      rw [List.cons_append]
      cases wrote : sink.write (echoed echo input) with
      | error failure =>
          rw [runLines_cons_of_full wrote, runLines_cons_of_full wrote,
            Run.andThen_of_end (fun sink => by simp [Noted.fail])]
      | ok next =>
          rw [runLines_cons wrote, runLines_cons wrote, Run.andThen_assoc]
          simp only [later]

/-! ## What a run comes to -/

/-- What lines write to an output that takes everything, one behind the other. -/
def transcript (echo : Bool) (shell : Shell δ) : List String → String
  | [] => ""
  | input :: inputs =>
      added echo shell input ++ transcript echo (shell.perform (Command.read input)).1 inputs

/-- The notices that lines give, one behind the other. -/
def noticesOf (shell : Shell δ) : List String → List Notice
  | [] => []
  | input :: inputs =>
      (shell.perform (Command.read input)).2.notices ++
        noticesOf (shell.perform (Command.read input)).1 inputs

/-- What lines decide: they leave as soon as one of them does. -/
def ending : List String → Control
  | [] => .goOn
  | input :: inputs => if Command.read input = .exit then .leave else ending inputs

theorem ending_eq_leave_iff {inputs : List String} :
    ending inputs = .leave ↔ ∃ input ∈ inputs, Command.read input = .exit := by
  induction inputs with
  | nil => simp [ending]
  | cons input inputs later =>
      by_cases leaves : Command.read input = .exit
      · simp [ending, leaves]
      · simp [ending, leaves, later]

/-- On an output that takes everything, every line is answered up to the one that
leaves. -/
theorem runLines_unlimited (echo : Bool) (shell : Shell δ) (written : String)
    (inputs : List String) :
    shell.runLines echo ⟨written, none⟩ inputs =
      ⟨shell.afterLines (reached inputs), shell.noticesOf (reached inputs),
        .ok (ending inputs, ⟨written ++ shell.transcript echo (reached inputs), none⟩)⟩ := by
  induction inputs generalizing shell written with
  | nil => simp [runLines, reached, afterLines, noticesOf, ending, transcript, Noted.pure]
  | cons input inputs later =>
      by_cases leaves : Command.read input = .exit
      · rw [runLines_cons_of_exit leaves, reached, if_pos leaves, ending, if_pos leaves]
        simp [afterLines, noticesOf, transcript]
      · rw [runLines_cons_of_ne_exit leaves, later, reached, if_neg leaves, ending,
          if_neg leaves, noticesOf, transcript, ← String.append_assoc]
        rfl

/-- A command that fails is answered by its failure in words, and the shell goes on. -/
theorem result_runLine_of_error {shell : Shell δ} {input : String} {failure : Failure}
    (failed : (shell.perform (Command.read input)).2.result = .error failure)
    (written : String) :
    (shell.runLine ⟨written, none⟩ input).outcome.result =
      .ok (.goOn, ⟨written ++ ("Error: " ++ failure.message ++ "\n"), none⟩) := by
  have stays : Command.read input ≠ .exit := by
    intro leaves
    rw [leaves] at failed
    contradiction
  rw [runLine_unlimited, failed, decision, if_neg stays]
  rfl

end Shell

/-! ## Batches -/

namespace CommandLine

/-- The words ask for a run with options whose logger is installed and whose session
opens. -/
structure Opens (system : FileSystem) (input : Input) (options : RunOptions)
    (session : Session Handle) : Prop where
  words : Invocation.read input.words = .ok (.run options)
  logged : ∃ guard, (Logging.install { system } Filter.read input.environment input.date
    (logConfig options)).2 = .ok guard
  opened : (Session.start
    (Logging.install { system } Filter.read input.environment input.date
      (logConfig options)).1.system
    (settings input.environment options)).2.result = .ok session

/-- A batch ends well with the transcript of its commands. -/
theorem beginShell_of_batch {options : RunOptions} (batch : options.batch = true)
    (system : FileSystem) (notices : List Notice) (shell : Shell Handle) :
    beginShell system notices shell options =
      .finished (answered system (notices ++ shell.noticesOf (Shell.reached options.commands))
        (shell.transcript true (Shell.reached options.commands))) := by
  have written := shell.runLines_unlimited true "" options.commands
  rw [String.empty_append] at written
  simp only [beginShell, Sink.unlimited, written, batch, Bool.or_true, if_true]

/-- A batch whose session opens ends well, whatever stands in its input. -/
theorem Opens.exists_run_eq {system : FileSystem} {input : Input} {options : RunOptions}
    {session : Session Handle} (opens : Opens system input options session)
    (batch : options.batch = true) (text : String) :
    ∃ after notices, run system input text =
      answered after notices
        (Shell.transcript true { session } (Shell.reached options.commands)) := by
  obtain ⟨words, ⟨guard, logged⟩, opened⟩ := opens
  simp only [run, begin, words, beginWith, logged, beginLogged, opened,
    beginShell_of_batch batch]
  exact ⟨_, _, rfl⟩

end CommandLine

namespace Shell

variable {δ : Type} [Engine δ]

/-- On an output that takes everything, a line never fails: it leaves exactly when it is
the command to leave, it writes its words, and a command that fails is answered by its
failure in words.  A run answers the lines up to the first one that leaves, each in the
state that those in front of it left behind, and leaves exactly when there is one.  So a
run over two parts is a run over the first and then one over the second, which is not
reached when the first part leaves.  And a batch whose session has opened ends well,
whatever became of its commands. -/
theorem lines_are_answered_in_sequence (shell : Shell δ) (written : String) :
    (∀ input,
      shell.runLine ⟨written, none⟩ input =
        ⟨(shell.perform (Command.read input)).1, (shell.perform (Command.read input)).2.notices,
          .ok (decision input,
            ⟨written ++ spoken (shell.perform (Command.read input)).2.result, none⟩)⟩ ∧
      (decision input = .leave ↔ Command.read input = .exit) ∧
      ∀ failure, (shell.perform (Command.read input)).2.result = .error failure →
        (shell.runLine ⟨written, none⟩ input).outcome.result =
          .ok (.goOn, ⟨written ++ ("Error: " ++ failure.message ++ "\n"), none⟩)) ∧
    (∀ inputs,
      shell.runLines true ⟨written, none⟩ inputs =
        ⟨shell.afterLines (reached inputs), shell.noticesOf (reached inputs),
          .ok (ending inputs, ⟨written ++ shell.transcript true (reached inputs), none⟩)⟩ ∧
      (ending inputs = .leave ↔ ∃ input ∈ inputs, Command.read input = .exit)) ∧
    (∀ first second,
      shell.runLines true ⟨written, none⟩ (first ++ second) =
        (shell.runLines true ⟨written, none⟩ first).andThen fun shell sink =>
          shell.runLines true sink second) ∧
    (∀ first second, (∃ input ∈ first, Command.read input = .exit) →
      shell.runLines true ⟨written, none⟩ (first ++ second) =
        shell.runLines true ⟨written, none⟩ first) ∧
    (∀ system input options session, CommandLine.Opens system input options session →
      options.batch = true → ∀ text,
        (CommandLine.run system input text).status = 0 ∧
        (CommandLine.run system input text).complaint = none ∧
        (CommandLine.run system input text).output =
          Shell.transcript true { session } (reached options.commands)) := by
  refine ⟨?_, ?_, ?_, ?_, ?_⟩
  · intro input
    exact ⟨shell.runLine_unlimited written input, decision_eq_leave_iff,
      fun failure failed => result_runLine_of_error failed written⟩
  · intro inputs
    exact ⟨runLines_unlimited true shell written inputs, ending_eq_leave_iff⟩
  · intro first second
    exact runLines_append_eq_andThen true shell ⟨written, none⟩ first second
  · rintro first second ⟨leaving, member, leaves⟩
    exact runLines_append_of_exit member leaves true shell ⟨written, none⟩ second
  · intro system input options session opens batch text
    obtain ⟨after, notices, ended⟩ := opens.exists_run_eq batch text
    rw [ended]
    exact ⟨rfl, rfl, rfl⟩

/-- Two commands that fail, one that leaves and one that is never reached. -/
theorem batch_with_failing_commands :
    let commands := ["show 0", "query lost l:1", " %quit now", "help"]
    let input : CommandLine.Input :=
      ⟨["--batch", "--catalog-db", ":memory:", "--inventory-db", "sqlite://",
          "-c", "show 0", "-c", "query lost l:1", "-c", " %quit now", "-c", "help"],
        [], "2024-05-01"⟩
    let options : RunOptions :=
      { commands, batch := true, catalogUri := some ":memory:", inventoryUri := some "sqlite://" }
    let session : Session Handle :=
      ⟨⟨.database .empty, .database .empty⟩, .empty, .standard, .empty, .memory, .memory⟩
    CommandLine.Opens .empty input options session ∧ options.batch = true ∧
      (CommandLine.run .empty input "entities").status = 0 ∧
      (CommandLine.run .empty input "entities").output =
        "mtg> show 0\nError: No results\nmtg> query lost l:1\nError: Entity not found: lost\n" ++
          "mtg>  %quit now\n" := by
  intro commands input options session
  have opens : CommandLine.Opens .empty input options session :=
    ⟨rfl, ⟨none, by decide⟩, by cbv⟩
  obtain ⟨status, -, output⟩ :=
    (lines_are_answered_in_sequence (δ := Handle) { session } "").2.2.2.2
      .empty input options session opens rfl "entities"
  refine ⟨opens, rfl, status, output.trans ?_⟩
  rfl

end Shell

end CardShell
