import CardShell.Failure
import CardShell.Text.Blank

/-!
# Database locations

A database lives in memory or in a file.  A location is written as one of three
spellings for memory, as `sqlite:///` in front of a path, or as a bare path;
every other scheme is refused.
-/

namespace CardShell

/-- Where a database lives. -/
inductive Location where
  | memory
  | file (path : String)
deriving DecidableEq, Repr

namespace Location

/-- The spellings of a database in memory. -/
def memorySpellings : List String :=
  [":memory:", "sqlite://", "sqlite:///:memory:"]

/-- The scheme in front of a path. -/
def scheme : List Char :=
  "sqlite:///".toList

/-- The rest of a text behind the scheme, if it starts with it. -/
def stripScheme? (uri : List Char) : Option (List Char) :=
  if scheme.isPrefixOf uri then some (uri.drop scheme.length) else none

/-- Whether one text occurs in another. -/
def occurs (part : List Char) : List Char → Bool
  | [] => part.isEmpty
  | text@(_ :: rest) => part.isPrefixOf text || occurs part rest

/-- Read a location whose blanks are trimmed. -/
def ofTrimmed (uri : List Char) : Except ConfigError Location :=
  if memorySpellings.contains (String.ofList uri) then .ok .memory
  else
    match stripScheme? uri with
    | some path =>
        if path.isEmpty then .error (.missingPath (String.ofList uri))
        else .ok (.file (String.ofList path))
    | none =>
        if occurs "://".toList uri then .error (.unsupportedUri (String.ofList uri))
        else if uri.isEmpty then .error .emptyUri
        else .ok (.file (String.ofList uri))

/-- Read a location; blanks around it do not count. -/
def ofUri (uri : String) : Except ConfigError Location :=
  ofTrimmed (Text.trim uri.toList)

/-- The path of a database in a file. -/
def path? : Location → Option String
  | .memory => none
  | .file path => some path

end Location

end CardShell
