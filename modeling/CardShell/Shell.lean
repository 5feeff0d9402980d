import CardShell.Command
import CardShell.Rendering
import CardShell.Session

/-!
# The shell

A shell answers lines.  Each line becomes a command, the command a text and a
decision to go on or to leave; a failure is answered in words and the shell goes
on.  Texts are written to an output that may take only so many bytes, and only a
full output ends a run early.
-/

namespace CardShell

/-- Whether the shell goes on. -/
inductive Control where
  | goOn
  | leave
deriving DecidableEq, Repr

/-- An output: what was written, and how many more bytes it takes. -/
structure Sink where
  written : String
  room : Option Nat
deriving DecidableEq, Repr

namespace Sink

/-- An output that takes everything. -/
def unlimited : Sink :=
  ⟨"", none⟩

/-- An output that takes so many bytes. -/
def limited (bytes : Nat) : Sink :=
  ⟨"", some bytes⟩

/-- Write a text, all of it or nothing. -/
def write (sink : Sink) (text : String) : Except FileError Sink :=
  match sink.room with
  | none => .ok ⟨sink.written ++ text, none⟩
  | some room =>
      if text.utf8ByteSize ≤ room then
        .ok ⟨sink.written ++ text, some (room - text.utf8ByteSize)⟩
      else .error .full

/-- An output without a limit takes every text. -/
theorem write_unlimited (written text : String) :
    write ⟨written, none⟩ text = .ok ⟨written ++ text, none⟩ :=
  rfl

/-- An output with a limit takes a text exactly when it has room for it. -/
theorem write_eq_error_iff {sink : Sink} {text : String} {failure : FileError} :
    sink.write text = .error failure ↔
      failure = .full ∧ ∃ room, sink.room = some room ∧ room < text.utf8ByteSize := by
  obtain ⟨written, room⟩ := sink
  cases room with
  | none => simp [write]
  | some room =>
      by_cases fits : text.utf8ByteSize ≤ room
      · simp [write, fits]
      · simp only [write, fits, if_false, Except.error.injEq, Option.some.injEq, exists_eq_left']
        constructor
        · intro equal
          exact ⟨equal.symm, Nat.lt_of_not_le fits⟩
        · intro known
          exact known.1.symm

end Sink

/-- What becomes of a program that is started. -/
inductive Launch where
  | /-- It cannot be started, for a reason that the system tells. -/
    refused (reason : String)
  | /-- It ends well. -/
    succeeded
  | /-- It ends in any other way, with an exit status or by a signal, in the words of the
    system. -/
    ended (status : String)
deriving DecidableEq, Repr

/-- What becomes of each program when it is started on a path. -/
abbrev Programs :=
  String → String → Launch

namespace Programs

/-- The two programs that do nothing but end well or badly. -/
def trivial : Programs
  | "true", _ => .succeeded
  | "false", _ => .ended "exit status: 1"
  | _, _ => .refused FileError.notFound.message

end Programs

/-- A session with the program that opens database files, and the measure by which results
are drawn. -/
structure Shell (δ : Type) where
  session : Session δ
  program : String := "sqlite3"
  programs : Programs := Programs.trivial
  measure : Text.Measure := Text.Measure.standard

namespace Shell

variable {δ : Type} [Engine δ]

/-- What stands in front of a command that was not typed. -/
def prompt : String :=
  "mtg> "

/-- A text as a line. -/
def line (text : String) : String :=
  text ++ "\n"

/-- The help text. -/
def helpText : String :=
  String.intercalate "\n"
    ["Available commands:",
      "",
      "  query <entity> [w:<where>|l:<limit>|g:<group_by>|o:<order_by>...]",
      "      Select rows of an entity with optional filters.",
      "  show <row_number>",
      "      Print details about a row of the previous query.",
      "  cols <entity>",
      "      Print available and shown columns of an entity.",
      "  sql <db_alias>",
      "      Open a sqlite3 shell on a database (" ++
        String.intercalate ", " Session.catalogAliases ++ " | " ++
        String.intercalate ", " Session.inventoryAliases ++ ").",
      "  entities",
      "      List known entities and their database.",
      "  help",
      "      This help message.",
      "  exit",
      "      Leave the shell."]

/-- Start the program on a path and say how it ended, unless it ended well. -/
def startOn (shell : Shell δ) (path : String) : Except Failure String :=
  match shell.programs shell.program path with
  | .refused reason => .error (.externalCommand shell.program reason)
  | .succeeded => .ok ""
  | .ended status => .ok (line (shell.program ++ " exited with " ++ status))

/-- Start the program on the path of a database. -/
def launch (shell : Shell δ) (name : String) : Except Failure String := do
  shell.startOn (← shell.session.databasePath name)

/-- One line for each entity. -/
def entityLines (catalog : Catalog) : String :=
  String.join (catalog.entities.map fun entity =>
    line (entity.name ++ " (" ++ entity.side.name ++ ")"))

/-- The text that answers a command, for all commands but queries. -/
def reply (shell : Shell δ) : Command → Except Failure (Control × String)
  | .query _ => .ok (.goOn, "")
  | .row number => (shell.session.row number).map fun detail =>
      (.goOn, line (Rendering.detail detail))
  | .columns entity => (shell.session.columns entity).map fun report =>
      (.goOn, line (Rendering.columnLists report.entity.columns report.chosen))
  | .database name => (shell.launch name).map fun text => (.goOn, text)
  | .entities => .ok (.goOn, entityLines shell.session.catalog)
  | .help => .ok (.goOn, line helpText)
  | .exit => .ok (.leave, "")
  | .empty => .ok (.goOn, "")
  | .unknown name => .ok (.goOn, line ("Unknown command: " ++ name ++ " (try `help`)"))

/-- Carry out a command. -/
def perform (shell : Shell δ) (command : Command) :
    Shell δ × Noted Failure (Control × String) :=
  match command with
  | .query instruction =>
      let (session, outcome) := shell.session.query instruction
      ({ shell with session }, outcome.map fun report =>
        (.goOn, line (Rendering.result shell.measure report.columns report.rows)))
  | command => (shell, .ofExcept (shell.reply command))

/-- Write the outcome of a command.  A failure is written in words, except for
one of the output itself. -/
def deliver (sink : Sink) : Except Failure (Control × String) →
    Except FileError (Control × Sink)
  | .ok (control, text) => (sink.write text).map fun sink => (control, sink)
  | .error (.file failure) => .error failure
  | .error failure =>
      (sink.write (line ("Error: " ++ failure.message))).map fun sink => (.goOn, sink)

/-- What a line or several lines came to: the shell after them, the notices
given, and the decision with the output. -/
structure Run (δ : Type) where
  shell : Shell δ
  outcome : Noted FileError (Control × Sink)

/-- Answer a line. -/
def runLine (shell : Shell δ) (sink : Sink) (input : String) : Run δ :=
  let (next, outcome) := shell.perform (Command.read input)
  ⟨next, outcome.notices, deliver sink outcome.result⟩

/-- Answer lines until one leaves or the output is full.  With `echo`, each line
is written behind the prompt before it is answered. -/
def runLines (echo : Bool) (shell : Shell δ) (sink : Sink) : List String → Run δ
  | [] => ⟨shell, .pure (.goOn, sink)⟩
  | input :: inputs =>
      match sink.write (if echo then line (prompt ++ input) else "") with
      | .error failure => ⟨shell, .fail failure⟩
      | .ok sink =>
          let first := shell.runLine sink input
          match first.outcome.result with
          | .ok (.goOn, sink) =>
              let rest := runLines echo first.shell sink inputs
              ⟨rest.shell, rest.outcome.after first.outcome.notices⟩
          | _ => first

end Shell

end CardShell
