import CardShell.Files
import CardShell.Logging.Filter
import CardShell.Settings

/-!
# Logging

A process has at most one logger.  Installing one checks the filter first, then
makes the log file, and only then asks whether there is a logger already: a
filter that is none leaves no trace, and a second logger leaves its file.  Which
texts are filters is up to the reader that the logger is installed with.
-/

namespace CardShell

/-- Where log lines go. -/
inductive LogOutput where
  | errorStream
  | file (path : String)
  | both (path : String)
deriving DecidableEq, Repr

/-- The path of the log file, if there is one. -/
def LogOutput.path? : LogOutput → Option String
  | .errorStream => none
  | .file path => some path
  | .both path => some path

/-- How log lines look. -/
inductive LogFormat where
  | pretty
  | compact
deriving DecidableEq, Repr

/-- How to log. -/
structure LogConfig where
  level : String := "warn"
  output : LogOutput := .errorStream
  format : LogFormat := .compact
deriving DecidableEq, Repr

namespace LogConfig

/-- The variable whose filter comes before the level. -/
def filterVariable : String :=
  "RUST_LOG"

/-- The name of a log file whose path ends in none. -/
def standardName : Path.Part :=
  "mtgdb.log".toList

/-- The filter in effect: that of the environment when it is one, and else that
of the level. -/
def filter (config : LogConfig) (reader : Filter.Reader) (environment : Environment) :
    Except ConfigError Filter :=
  match (environment.lookup filterVariable).bind fun text => (reader text).toOption with
  | some filter => .ok filter
  | none => (reader config.level).mapError (.invalidLogLevel config.level)

/-- The log file of a path on a day: it stands in the directory of the path, and
its name ends in the day. -/
def fileOn (date path : String) : List Path.Part :=
  let name := (Path.fileName? path).getD standardName
  Path.normal ((Path.parent? path).getD [] ++ [name ++ '.' :: date.toList])

/-- The log file on a day, if there is one. -/
def file? (config : LogConfig) (date : String) : Option (List Path.Part) :=
  config.output.path?.map (fileOn date)

end LogConfig

/-- What holds a log file open. -/
structure LogGuard where
  file : List Path.Part
deriving DecidableEq, Repr

/-- What a process has of logging: its files and the filter of its logger. -/
structure Logging where
  system : FileSystem
  logger : Option Filter := none
deriving DecidableEq, Repr

namespace Logging

/-- Make a log file, if there is one to make. -/
def withFile (logging : Logging) : Option (List Path.Part) → Logging
  | none => logging
  | some file => { logging with system := logging.system.touch file }

/-- Install a logger.  A log file is held open by the guard. -/
def install (logging : Logging) (reader : Filter.Reader) (environment : Environment)
    (date : String) (config : LogConfig) : Logging × Except ConfigError (Option LogGuard) :=
  match config.filter reader environment with
  | .error failure => (logging, .error failure)
  | .ok filter =>
      let file := config.file? date
      let opened := logging.withFile file
      match opened.logger with
      | some _ => (opened, .error .loggerInstalled)
      | none => ({ opened with logger := some filter }, .ok (file.map LogGuard.mk))

end Logging

end CardShell
