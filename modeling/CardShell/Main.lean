import CardShell.CommandLine
import Std.Time

/-!
# The program

The program takes its words, its environment, the day and the files that the
words name from the system, and gives back what a run leaves: its texts, its new
files and its exit status.  Lines are answered one by one as they are typed.
-/

namespace CardShell.CommandLine

/-- The variables that a run may read. -/
def readVariables : List String :=
  [Settings.catalogVariable, Settings.inventoryVariable, Settings.columnsVariable,
    LogConfig.filterVariable]

/-- A normal path as the system takes it. -/
def systemPath (path : List Path.Part) : String :=
  if path.isEmpty then "." else String.ofList (['/'].intercalate path)

/-- Look at a file.  What cannot be read as a file is a directory.  The format in which
databases are stored is not read here, so a database file counts as bytes, and a session on
it fails at the first thing that it asks. -/
def look (path : List Path.Part) : IO (Option File) := do
  try
    let content ← IO.FS.readBinFile (systemPath path)
    match String.fromUTF8? content with
    | some text => return some (.text text)
    | none => return some .binary
  catch
    | .noFileOrDirectory .. => return none
    | _ => return some .directory

/-- The files that a run may look at, and the directories above them. -/
def snapshot (input : Input) : IO FileSystem := do
  let places := ((paths input).flatMap fun path => Path.above path ++ [path]).eraseDups
  let found ← places.filterMapM fun place => do
    return (← look place).map fun file => (place, file)
  return ⟨found⟩

/-- Make the files that a run adds. -/
def save (before after : FileSystem) : IO Unit := do
  for (path, _) in after.files do
    if (before.find? path).isNone then
      IO.FS.createDirAll (systemPath path.dropLast)
      IO.FS.writeFile (systemPath path) ""

/-- The current day as it stands in the names of log files. -/
def today : IO String := do
  let now ← Std.Time.Timestamp.now
  return (Std.Time.PlainDate.ofEpochDay now.toDaysSinceUnixEpoch).toSQLDateString

/-- Answer lines as they come until one leaves. -/
partial def converse (shell : Shell Handle) : IO Unit := do
  let input ← IO.getStdin
  if ← input.isTty then
    IO.print Shell.prompt
    (← IO.getStdout).flush
  let text ← input.getLine
  for line in inputLines text do
    let run := shell.runLine .unlimited line
    if let .ok (control, sink) := run.outcome.result then
      IO.print sink.written
      (← IO.getStdout).flush
      if control = .goOn then converse run.shell

/-- Give back what a run leaves. -/
def report (before : FileSystem) (outcome : Outcome) : IO UInt32 := do
  save before outcome.system
  IO.print outcome.output
  if let some complaint := outcome.complaint then IO.eprintln complaint
  return outcome.status.toUInt32

end CardShell.CommandLine

open CardShell CommandLine in
/-- Run the program. -/
def main (words : List String) : IO UInt32 := do
  let environment ← readVariables.filterMapM fun name => do
    return (← IO.getEnv name).map fun value => (name, value)
  let input : Input := ⟨words, environment, ← today⟩
  let system ← snapshot input
  match begin system input with
  | .finished outcome => report system outcome
  | .waiting shell outcome =>
      let status ← report system outcome
      converse shell
      return status
