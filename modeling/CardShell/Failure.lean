import CardShell.Instruction
import CardShell.Text.Escaped

/-!
# Failures

Everything that can end a request, as causes with the data that their wording
needs.  The wording of each kind is one function, and `Failure.inner?` gives the
wording of the failure that another one wraps.
-/

namespace CardShell

/-- Why the storage engine refuses. -/
inductive StorageError where
  | cannotOpen (path : String)
  | notADatabase
  | unrecognizedToken (token sql : String) (offset : Nat)
  | syntaxNear (token sql : String) (offset : Nat)
  | incompleteInput
  | noSuchTable (name sql : String) (offset : Nat)
  | noSuchColumn (name sql : String) (offset : Nat)
  | /-- Any other refusal, in the engine's own words. -/
    described (text : String)
deriving DecidableEq, Repr

/-- A message about a place in a statement. -/
def StorageError.located (message sql : String) (offset : Nat) : String :=
  message ++ " in " ++ sql ++ " at offset " ++ Text.ofNat offset

/-- The wording of a storage error. -/
def StorageError.message : StorageError → String
  | .cannotOpen path => "unable to open database file: " ++ path
  | .notADatabase => "file is not a database"
  | .unrecognizedToken token sql offset =>
      located ("unrecognized token: \"" ++ token ++ "\"") sql offset
  | .syntaxNear token sql offset =>
      located ("near \"" ++ token ++ "\": syntax error") sql offset
  | .incompleteInput => "incomplete input"
  | .noSuchTable name sql offset => located ("no such table: " ++ name) sql offset
  | .noSuchColumn name sql offset => located ("no such column: " ++ name) sql offset
  | .described text => text

/-- Why a file cannot be read or written. -/
inductive FileError where
  | notFound
  | notADirectory
  | isADirectory
  | notText
  | /-- The output takes no more bytes. -/
    full
  | /-- Any other refusal, in the system's own words. -/
    described (text : String)
deriving DecidableEq, Repr

/-- The wording of a file error. -/
def FileError.message : FileError → String
  | .notFound => "No such file or directory (os error 2)"
  | .notADirectory => "Not a directory (os error 20)"
  | .isADirectory => "Is a directory (os error 21)"
  | .notText => "stream did not contain valid UTF-8"
  | .full => "sink is full"
  | .described text => text

/-- Why a log filter is no filter. -/
inductive FilterError where
  | /-- A level that is none of the level names and numbers. -/
    level
  | /-- A directive that does not have the form of one. -/
    directive
deriving DecidableEq, Repr

/-- The wording of a filter error. -/
def FilterError.message : FilterError → String
  | .level =>
      "error parsing level filter: expected one of \"off\", \"error\", \"warn\", \"info\", " ++
        "\"debug\", \"trace\", or a number 0-5"
  | .directive => "invalid filter directive"

/-- What is wrong with a setting. -/
inductive ConfigError where
  | missingPath (uri : String)
  | unsupportedUri (uri : String)
  | emptyUri
  | inMemory (name : String)
  | invalidLogLevel (level : String) (reason : FilterError)
  | /-- The process already has a logger. -/
    loggerInstalled
  | /-- The display configuration is not what it should be. -/
    invalidDocument
  | /-- Anything else, in words. -/
    described (text : String)
deriving DecidableEq, Repr

/-- The wording of a configuration error. -/
def ConfigError.message : ConfigError → String
  | .missingPath uri => "missing path in database URI: " ++ uri
  | .unsupportedUri uri => "unsupported database URI: " ++ uri
  | .emptyUri => "empty database URI"
  | .inMemory name => "database [" ++ name ++ "] is in memory"
  | .invalidLogLevel level reason =>
      "invalid log level " ++ Text.escaped level ++ ": " ++ reason.message
  | .loggerInstalled => "a global default trace dispatcher has already been set"
  | .invalidDocument => "TOML parse error"
  | .described text => text

/-- Why a request fails. -/
inductive Failure where
  | instruction (error : InstructionError)
  | entityNotFound (name : String)
  | outOfRange (index : Int) (count : Nat)
  | noResults
  | invalidRowNumber (text : String)
  | unknownAlias (name : String)
  | config (error : ConfigError)
  | externalCommand (program message : String)
  | file (error : FileError)
  | storage (error : StorageError)
deriving DecidableEq, Repr

namespace Failure

/-- The wording of a failure. -/
def message : Failure → String
  | .instruction error => "Parse error: " ++ error.message
  | .entityNotFound name => "Entity not found: " ++ name
  | .outOfRange index count =>
      "Row " ++ Text.ofInt index ++ " not in range (0.." ++ Text.ofNat count ++ ")"
  | .noResults => "No results"
  | .invalidRowNumber text => "Invalid row number: [" ++ text ++ "]"
  | .unknownAlias name => "Invalid db alias: [" ++ name ++ "]"
  | .config error => "Configuration error: " ++ error.message
  | .externalCommand program message => "Could not run " ++ program ++ ": " ++ message
  | .file error => "I/O error: " ++ error.message
  | .storage error => error.message

/-- The wording of the failure inside, for the kinds that wrap one. -/
def inner? : Failure → Option String
  | .instruction error => some error.message
  | .file error => some error.message
  | .storage error => some error.message
  | _ => none

end Failure

end CardShell
