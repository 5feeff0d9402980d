import CardShell.Engine
import CardShell.Files.Path
import CardShell.Location

/-!
# Files

A file system holds files under normal paths; the directories above a file are
there without an entry of their own.  A database is opened either as it is or,
when it is missing and its directory exists, as a new empty file.
-/

namespace CardShell

/-- What a path leads to. -/
inductive File where
  | directory
  | text (content : String)
  | database (content : Database)
  | /-- A file that holds neither a text nor a database. -/
    binary
deriving DecidableEq, Repr

/-- Files by normal path, relative to the working directory or from the root. -/
structure FileSystem where
  files : List (List Path.Part × File)
deriving DecidableEq, Repr

namespace FileSystem

/-- No files. -/
def empty : FileSystem :=
  ⟨[]⟩

/-- What a normal path leads to.  The working directory and the root always
exist, and so does every directory above a file. -/
def find? (system : FileSystem) (path : List Path.Part) : Option File :=
  match system.files.lookup path with
  | some file => some file
  | none =>
      if path = [] || path = [Path.root] || system.files.any fun entry => path.isPrefixOf entry.1
      then some .directory
      else none

/-- Whether a normal path leads to a directory. -/
def isDirectory (system : FileSystem) (path : List Path.Part) : Bool :=
  system.find? path == some .directory

/-- Add an empty file unless there is one already. -/
def touch (system : FileSystem) (path : List Path.Part) : FileSystem :=
  if (system.find? path).isSome then system else ⟨system.files ++ [(path, .text "")]⟩

/-- Whether a file stands where a normal path needs a directory. -/
def isBlocked (system : FileSystem) (path : List Path.Part) : Bool :=
  (Path.above path).any fun place =>
    match system.find? place with
    | some .directory | none => false
    | some _ => true

/-- Read a file as a text. -/
def readText (system : FileSystem) (path : String) : Except FileError String :=
  let place := Path.normal (Path.parts path)
  if path.isEmpty then .error .notFound
  else if system.isBlocked place then .error .notADirectory
  else
    match system.find? place with
    | none => .error .notFound
    | some .directory => .error .isADirectory
    | some file =>
        if Path.namesDirectory path then .error .notADirectory
        else
          match file with
          | .text content => .ok content
          | .database content => if content = .empty then .ok "" else .error .notText
          | .binary => .error .notText
          | .directory => .error .isADirectory

/-- The database in a file.  An empty file is an empty database. -/
def handle? : File → Option Handle
  | .directory => none
  | .text content => some (if content.isEmpty then .database .empty else .unreadable)
  | .database content => some (.database content)
  | .binary => some .unreadable

/-- Open a database that is not written to.  Its file has to exist. -/
def openExisting (system : FileSystem) : Location → Except StorageError Handle
  | .memory => .ok (.database .empty)
  | .file path =>
      match (system.find? (Path.normal (Path.parts path))).bind handle? with
      | some handle => .ok handle
      | none => .error (.cannotOpen path)

/-- Open a database that may be new.  A missing file is made when its directory
exists. -/
def openOrCreate (system : FileSystem) : Location → FileSystem × Except StorageError Handle
  | .memory => (system, .ok (.database .empty))
  | .file path =>
      let place := Path.normal (Path.parts path)
      match system.find? place with
      | some file =>
          match handle? file with
          | some handle => (system, .ok handle)
          | none => (system, .error (.cannotOpen path))
      | none =>
          if system.isDirectory place.dropLast then
            (system.touch place, .ok (.database .empty))
          else (system, .error (.cannotOpen path))

/-- The paths of the regular files under the working directory, in byte
order. -/
def regularPaths (system : FileSystem) : List String :=
  let regular := system.files.filter fun entry =>
    entry.2 != .directory && entry.1.head? != some Path.root && entry.1.head? != some Path.up
  (regular.map fun entry => String.ofList (['/'].intercalate entry.1)).mergeSort
    fun left right => Text.compareText left right != .gt

end FileSystem

end CardShell
