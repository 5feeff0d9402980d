import CardShell.CommandLine.Invocation
import CardShell.Logging
import CardShell.Shell

/-!
# The command line

A run reads its words, installs the logger, opens the session, answers the
commands among the words and then, unless one of them leaves or the run is a
batch, the lines of its input.  The first of these steps that fails ends it.
-/

namespace CardShell.CommandLine

/-- The name of the program. -/
def programName : String :=
  "mtgdb"

/-- The version of the program. -/
def version : String :=
  "0.3.0"

/-- The text that answers a wish for help. -/
def helpText : String :=
  String.intercalate "\n"
    ["Interactive query shell for a card-catalog and an inventory database",
      "",
      "Usage: " ++ programName ++ " [OPTIONS]",
      "",
      "Options:",
      "  -c, --command <COMMAND>                Command to run before the prompt (repeatable)",
      "      --batch                            Run the given commands and exit without prompting",
      "      --catalog-db <CATALOG_DB>          " ++
        "Card-catalog database URI (sqlite:///path or a plain path)",
      "      --inventory-db <INVENTORY_DB>      " ++
        "Inventory database URI (sqlite:///path or a plain path)",
      "      --display-config <DISPLAY_CONFIG>  " ++
        "TOML file overriding the default display columns",
      "      --log-level <LOG_LEVEL>            " ++
        "Log level filter (RUST_LOG takes precedence) [default: warn]",
      "      --log-file <LOG_FILE>              Also write logs to this file, rotated daily",
      "  -h, --help                             Print help",
      "  -V, --version                          Print version"]

/-- What a run is given before it reads its input. -/
structure Input where
  words : List String
  environment : Environment
  /-- The day, as it stands in the names of log files. -/
  date : String
deriving DecidableEq, Repr

/-- What a run leaves. -/
structure Outcome where
  status : Nat
  output : String
  /-- The line on the error stream that says why the run failed. -/
  complaint : Option String
  notices : List Notice
  system : FileSystem
deriving DecidableEq, Repr

/-- How far a run gets before it reads its input. -/
inductive Beginning where
  | finished (outcome : Outcome)
  | /-- The commands are answered, and the shell waits for lines. -/
    waiting (shell : Shell Handle) (outcome : Outcome)

/-- The lines of a text.  A line ends at a line feed, which may have a carriage
return in front; the last line may lack its end. -/
def inputLines (text : String) : List String :=
  let parts := text.toList.splitOn '\n'
  let ended := parts.dropLast.map fun part =>
    if part.getLast? = some '\r' then part.dropLast else part
  let unended := (parts.getLast?.filter fun part => !part.isEmpty).toList
  (ended ++ unended).map String.ofList

/-- How the options of a run ask to log. -/
def logConfig (options : RunOptions) : LogConfig :=
  let defaults : LogConfig := {}
  { defaults with
    level := options.logLevel.getD defaults.level
    output := (options.logFile.map LogOutput.both).getD defaults.output }

/-- The settings of a run.  Its options come before its environment. -/
def settings (environment : Environment) (options : RunOptions) : Settings :=
  let given := Settings.ofEnvironment environment
  { catalogUri := options.catalogUri.getD given.catalogUri
    inventoryUri := options.inventoryUri.getD given.inventoryUri
    columnsFile := options.columnsFile <|> given.columnsFile }

/-- A run that ends well. -/
def answered (system : FileSystem) (notices : List Notice) (output : String) : Outcome :=
  { status := 0, output, complaint := none, notices, system }

/-- A run that fails. -/
def failed (system : FileSystem) (notices : List Notice) (failure : Failure) : Outcome :=
  { status := 1
    output := ""
    complaint := some (programName ++ ": " ++ failure.message)
    notices
    system }

/-- Answer the commands of a run. -/
def beginShell (system : FileSystem) (notices : List Notice) (shell : Shell Handle)
    (options : RunOptions) : Beginning :=
  let run := shell.runLines true .unlimited options.commands
  let notices := notices ++ run.outcome.notices
  match run.outcome.result with
  | .error failure => .finished (failed system notices (.file failure))
  | .ok (control, sink) =>
      let outcome := answered system notices sink.written
      if control = .leave || options.batch then .finished outcome
      else .waiting run.shell outcome

/-- Begin a run whose logger is installed. -/
def beginLogged (system : FileSystem) (input : Input) (options : RunOptions) : Beginning :=
  let (system, opened) := Session.start system (settings input.environment options)
  match opened.result with
  | .error failure => .finished (failed system opened.notices failure)
  | .ok session => beginShell system opened.notices { session } options

/-- Begin a run with its options. -/
def beginWith (system : FileSystem) (input : Input) (options : RunOptions) : Beginning :=
  let (logging, logged) :=
    Logging.install { system } Filter.read input.environment input.date (logConfig options)
  match logged with
  | .error failure => .finished (failed logging.system [] (.config failure))
  | .ok _ => beginLogged logging.system input options

/-- Begin what the words ask for. -/
def begin (system : FileSystem) (input : Input) : Beginning :=
  match Invocation.read input.words with
  | .error error =>
      .finished
        { status := 2
          output := ""
          complaint := some ("error: " ++ error.message)
          notices := []
          system }
  | .ok .help => .finished (answered system [] (Shell.line helpText))
  | .ok .version => .finished (answered system [] (Shell.line (programName ++ " " ++ version)))
  | .ok (.run options) => beginWith system input options

/-- Answer the lines of the input. -/
def finish (shell : Shell Handle) (outcome : Outcome) (lines : List String) : Outcome :=
  let rest := (shell.runLines false .unlimited lines).outcome
  let notices := outcome.notices ++ rest.notices
  match rest.result with
  | .error failure => failed outcome.system notices (.file failure)
  | .ok (_, sink) => answered outcome.system notices (outcome.output ++ sink.written)

/-- Do what the words ask for, with a text as input. -/
def run (system : FileSystem) (input : Input) (text : String) : Outcome :=
  match begin system input with
  | .finished outcome => outcome
  | .waiting shell outcome => finish shell outcome (inputLines text)

/-- The paths that a run may look at. -/
def paths (input : Input) : List (List Path.Part) :=
  match Invocation.read input.words with
  | .ok (.run options) =>
      let settings := settings input.environment options
      let locations := [settings.catalogLocation, settings.inventoryLocation]
      let databases := locations.filterMap fun location => location.toOption.bind Location.path?
      let named := (databases ++ settings.columnsFile.toList).map fun path =>
        Path.normal (Path.parts path)
      named ++ ((logConfig options).file? input.date).toList
  | _ => []

end CardShell.CommandLine
