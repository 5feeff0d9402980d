import CardShell.Text.Blank

/-!
# Invocations

The words behind the name of the program ask for a run, for help, or for the
version.  An option that takes a value finds it in its own word or is the whole
next word, which then must not look like an option.  Words are read from left to
right, and the first mistake, or the first wish for help or the version, decides.
-/

namespace CardShell

/-- The options that take a value. -/
inductive ValueOption where
  | command
  | catalogDatabase
  | inventoryDatabase
  | displayConfig
  | logLevel
  | logFile
deriving DecidableEq, Repr

namespace ValueOption

/-- All options that take a value. -/
def all : List ValueOption :=
  [.command, .catalogDatabase, .inventoryDatabase, .displayConfig, .logLevel, .logFile]

/-- The name of an option. -/
def name : ValueOption → String
  | .command => "command"
  | .catalogDatabase => "catalog-db"
  | .inventoryDatabase => "inventory-db"
  | .displayConfig => "display-config"
  | .logLevel => "log-level"
  | .logFile => "log-file"

/-- The option of a name. -/
def ofName? (text : String) : Option ValueOption :=
  all.find? fun option => option.name == text

end ValueOption

/-- The options that take none. -/
inductive Flag where
  | batch
  | help
  | version
deriving DecidableEq, Repr

namespace Flag

/-- All options that take no value. -/
def all : List Flag :=
  [.batch, .help, .version]

/-- The name of an option. -/
def name : Flag → String
  | .batch => "batch"
  | .help => "help"
  | .version => "version"

/-- The option of a name. -/
def ofName? (text : String) : Option Flag :=
  all.find? fun option => option.name == text

end Flag

/-- What is wrong with the words. -/
inductive UsageError where
  | unknownOption (word : String)
  | unexpectedWord (word : String)
  | missingValue (option : ValueOption)
  | unexpectedValue (option : Flag)
  | repeatedOption (option : ValueOption)
  | repeatedFlag (option : Flag)
deriving DecidableEq, Repr

/-- The wording of a usage error. -/
def UsageError.message : UsageError → String
  | .unknownOption word => "unexpected argument '" ++ word ++ "' found"
  | .unexpectedWord word => "unexpected argument '" ++ word ++ "' found"
  | .missingValue option =>
      "a value is required for '--" ++ option.name ++ "' but none was supplied"
  | .unexpectedValue option => "unexpected value for '--" ++ option.name ++ "' found"
  | .repeatedOption option =>
      "the argument '--" ++ option.name ++ "' cannot be used multiple times"
  | .repeatedFlag option =>
      "the argument '--" ++ option.name ++ "' cannot be used multiple times"

/-- What a run is told. -/
structure RunOptions where
  commands : List String := []
  batch : Bool := false
  catalogUri : Option String := none
  inventoryUri : Option String := none
  columnsFile : Option String := none
  logLevel : Option String := none
  logFile : Option String := none
deriving DecidableEq, Repr

namespace RunOptions

/-- The value of an option that may be given once. -/
def once (option : ValueOption) (given : Option String) (value : String) :
    Except UsageError (Option String) :=
  if given.isSome then .error (.repeatedOption option) else .ok (some value)

/-- The value of an option that may be given once and names a file. -/
def onceNamed (option : ValueOption) (given : Option String) (value : String) :
    Except UsageError (Option String) :=
  if value.isEmpty then .error (.missingValue option) else once option given value

/-- Take the value of an option. -/
def set (options : RunOptions) (option : ValueOption) (value : String) :
    Except UsageError RunOptions :=
  match option with
  | .command => .ok { options with commands := options.commands ++ [value] }
  | .catalogDatabase =>
      (once option options.catalogUri value).map fun given => { options with catalogUri := given }
  | .inventoryDatabase =>
      (once option options.inventoryUri value).map fun given =>
        { options with inventoryUri := given }
  | .displayConfig =>
      (onceNamed option options.columnsFile value).map fun given =>
        { options with columnsFile := given }
  | .logLevel =>
      (once option options.logLevel value).map fun given => { options with logLevel := given }
  | .logFile =>
      (onceNamed option options.logFile value).map fun given => { options with logFile := given }

end RunOptions

/-- What a word is. -/
inductive Word where
  | /-- The two dashes behind which no word is an option. -/
    terminator
  | flag (option : Flag)
  | /-- An option that takes a value, with the value if the word holds it. -/
    valued (option : ValueOption) (value : Option String)
  | wrong (error : UsageError)
  | plain (text : String)
deriving DecidableEq, Repr

namespace Word

/-- A word of two dashes, a name and, behind an equals sign, a value. -/
def ofLong (text : List Char) : Word :=
  let (name, value) :=
    match Text.cutAt '=' text with
    | some (name, value) => (String.ofList name, some (String.ofList value))
    | none => (String.ofList text, none)
  match ValueOption.ofName? name, Flag.ofName? name, value with
  | some option, _, value => .valued option value
  | none, some given, none => .flag given
  | none, some given, some _ => .wrong (.unexpectedValue given)
  | none, none, _ => .wrong (.unknownOption ("--" ++ name))

/-- A word of a dash and letters.  The letters behind an option that takes a
value are the value, except for an equals sign in front. -/
def ofShort : List Char → Word
  | ['c'] => .valued .command none
  | 'c' :: '=' :: value => .valued .command (some (String.ofList value))
  | 'c' :: value => .valued .command (some (String.ofList value))
  | 'h' :: _ => .flag .help
  | 'V' :: _ => .flag .version
  | letters => .wrong (.unknownOption (String.ofList ('-' :: letters.take 1)))

/-- What a word is.  A single dash is a plain word. -/
def ofText (text : String) : Word :=
  match text.toList with
  | ['-', '-'] => .terminator
  | '-' :: '-' :: rest => ofLong rest
  | ['-'] => .plain text
  | '-' :: rest => ofShort rest
  | _ => .plain text

end Word

/-- What the words ask for. -/
inductive Invocation where
  | run (options : RunOptions)
  | help
  | version
deriving DecidableEq, Repr

namespace Invocation

/-- Read words with the options so far and the option that waits for its value,
if one does. -/
def readWith (options : RunOptions) (waiting : Option ValueOption) :
    List String → Except UsageError Invocation
  | [] =>
      match waiting with
      | none => .ok (.run options)
      | some option => .error (.missingValue option)
  | text :: texts =>
      match waiting, Word.ofText text with
      | some option, .plain value =>
          match options.set option value with
          | .error error => .error error
          | .ok options => readWith options none texts
      | some option, _ => .error (.missingValue option)
      | none, .plain word => .error (.unexpectedWord word)
      | none, .wrong error => .error error
      | none, .terminator =>
          match texts with
          | [] => .ok (.run options)
          | word :: _ => .error (.unexpectedWord word)
      | none, .flag .help => .ok .help
      | none, .flag .version => .ok .version
      | none, .flag .batch =>
          if options.batch then .error (.repeatedFlag .batch)
          else readWith { options with batch := true } none texts
      | none, .valued option none => readWith options (some option) texts
      | none, .valued option (some value) =>
          match options.set option value with
          | .error error => .error error
          | .ok options => readWith options none texts

/-- Read the words behind the name of the program. -/
def read (words : List String) : Except UsageError Invocation :=
  readWith {} none words

end Invocation

end CardShell
