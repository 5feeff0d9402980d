import CardShell.Toml.Node
import CardShell.Toml.Scalar
import CardShell.Toml.Strings

/-!
# Reading TOML documents

A document is a sequence of lines, each blank, a table header or a key with its
value; only arrays and long strings run over line ends.  Values nest less than
eighty levels deep.  `document?` returns the entries of the root table, or
nothing for a text that is no document.
-/

namespace CardShell.Toml

/-- Nesting of values, and length of dotted keys, stays below this. -/
def nestingLimit : Nat :=
  80

/-- Drop spaces and tabs. -/
def skipBlanks (text : List Char) : List Char :=
  text.dropWhile fun character => character == ' ' || character == '\t'

/-- Drop a comment up to the end of its line; nothing when it holds a control
character. -/
def skipComment? : List Char → Option (List Char)
  | '#' :: rest =>
      let comment := rest.takeWhile fun character => character != '\n'
      let behind := rest.dropWhile fun character => character != '\n'
      let body := if behind.isEmpty || comment.getLast? != some '\r' then comment
        else comment.dropLast
      if body.any isForbidden then none
      else some (if body.length < comment.length then '\r' :: behind else behind)
  | text => some text

/-- Drop one line end. -/
def skipLineEnd? : List Char → Option (List Char)
  | '\n' :: rest => some rest
  | '\r' :: '\n' :: rest => some rest
  | _ => none

/-- Drop what may stand behind an expression: blanks, a comment, and a line end
or the end of the text. -/
def skipToNextLine? (text : List Char) : Option (List Char) := do
  let rest ← skipComment? (skipBlanks text)
  if rest.isEmpty then some [] else skipLineEnd? rest

/-- Drop blanks, comments and line ends, at most as many as there are
characters. -/
def skipLines? : Nat → List Char → Option (List Char)
  | 0, text => some text
  | bound + 1, text => do
      let rest ← skipComment? (skipBlanks text)
      match skipLineEnd? rest with
      | some next => skipLines? bound next
      | none => some rest

/-- The characters of keys that need no quotes. -/
def isBareKeyChar (character : Char) : Bool :=
  character.isAlphanum || character == '_' || character == '-'

/-- Read one key, bare or quoted. -/
def readSimpleKey (text : List Char) : Option (String × List Char) :=
  match text with
  | '"' :: rest => (readBasic rest).map fun parts => (String.ofList parts.1, parts.2)
  | '\'' :: rest => (readLiteral rest).map fun parts => (String.ofList parts.1, parts.2)
  | _ =>
      let key := text.takeWhile isBareKeyChar
      if key.isEmpty then none
      else some (String.ofList key, text.dropWhile isBareKeyChar)

/-- Read keys joined by dots, with blanks around them, at most as many as there
are characters. -/
def readKeys : Nat → List Char → Option (List String × List Char)
  | 0, _ => none
  | bound + 1, text => do
      let (key, rest) ← readSimpleKey (skipBlanks text)
      match skipBlanks rest with
      | '.' :: next =>
          let (keys, rest) ← readKeys bound next
          pure (key :: keys, rest)
      | rest => pure ([key], rest)

/-- Read a dotted key. -/
def readKey (text : List Char) : Option (List String × List Char) := do
  let (keys, rest) ← readKeys text.length text
  if keys.length < nestingLimit then pure (keys, rest) else none

/-- Read the items of an array behind its opening bracket or a comma.  Items may
stand on lines of their own, and the last one may have a comma behind it. -/
def readItems (readItem : List Char → Option (Node × List Char)) :
    Nat → List Char → Option (List Node × List Char)
  | 0, _ => none
  | bound + 1, text => do
      match ← skipLines? text.length text with
      | ']' :: rest => pure ([], rest)
      | start =>
          let (item, rest) ← readItem start
          match ← skipLines? rest.length rest with
          | ',' :: next =>
              let (items, rest) ← readItems readItem bound next
              pure (item :: items, rest)
          | ']' :: rest => pure ([item], rest)
          | _ => none

/-- Read the pairs of an inline table behind its opening brace or a comma, on
one line and without a comma behind the last one. -/
def readPairs (readItem : List Char → Option (Node × List Char)) :
    Nat → Entries → List Char → Option (Entries × List Char)
  | 0, _, _ => none
  | bound + 1, entries, text => do
      let (path, rest) ← readKey text
      match rest with
      | '=' :: start =>
          let (item, rest) ← readItem (skipBlanks start)
          let entries ← entries.assign? path item
          match skipBlanks rest with
          | ',' :: next => readPairs readItem bound entries next
          | '\x7d' :: rest => pure (entries, rest)
          | _ => none
      | _ => none

/-- Read a value that nests at most this deep. -/
def readValue : Nat → List Char → Option (Node × List Char)
  | depth, '[' :: rest =>
      match depth with
      | 0 => none
      | depth + 1 => do
          let (items, rest) ← readItems (readValue depth) (rest.length + 1) rest
          pure (.array items, rest)
  | depth, '\x7b' :: rest =>
      match depth with
      | 0 => none
      | depth + 1 =>
          match skipBlanks rest with
          | '\x7d' :: rest => some (.table .closed [], rest)
          | start => do
              let (entries, rest) ← readPairs (readValue depth) (start.length + 1) [] start
              pure (.table .closed entries, rest)
  | _, text@('"' :: _) | _, text@('\'' :: _) =>
      (readString text).map fun parts => (.text (String.ofList parts.1), parts.2)
  | _, text => (readScalar text).map fun rest => (.scalar, rest)

/-- A document being read: the root table and the keys of the open header. -/
structure Reading where
  root : Entries
  header : List String

namespace Reading

/-- Read a header from its first bracket on. -/
def readHeader (reading : Reading) : List Char → Option (Reading × List Char)
  | '[' :: '[' :: text => do
      match ← readKey text with
      | (path, ']' :: ']' :: rest) =>
          pure (⟨← reading.root.openElement? path, path⟩, rest)
      | _ => none
  | '[' :: text => do
      match ← readKey text with
      | (path, ']' :: rest) => pure (⟨← reading.root.openTable? path, path⟩, rest)
      | _ => none
  | _ => none

/-- Read a key with its value into the open table. -/
def readAssignment (reading : Reading) (text : List Char) : Option (Reading × List Char) := do
  match ← readKey text with
  | (path, '=' :: start) =>
      let (node, rest) ← readValue (nestingLimit - 1) (skipBlanks start)
      let root ← reading.root.updateUnderHeader (Entries.assign? path node) reading.header
      pure ({ reading with root := root }, rest)
  | _ => none

/-- Read lines, at most as many as there are characters. -/
def readLines : Nat → Reading → List Char → Option Reading
  | 0, reading, text => if text.isEmpty then some reading else none
  | bound + 1, reading, text =>
      match skipBlanks text with
      | [] => some reading
      | '#' :: rest => do readLines bound reading (← skipToNextLine? ('#' :: rest))
      | '\n' :: rest => readLines bound reading rest
      | '\r' :: '\n' :: rest => readLines bound reading rest
      | '[' :: rest => do
          let (reading, rest) ← reading.readHeader ('[' :: rest)
          readLines bound reading (← skipToNextLine? rest)
      | start => do
          let (reading, rest) ← reading.readAssignment start
          readLines bound reading (← skipToNextLine? rest)

end Reading

/-- Drop a byte order mark. -/
def dropMark : List Char → List Char
  | '\uFEFF' :: rest => rest
  | text => text

/-- The entries of the root table of a document. -/
def document? (source : String) : Option Entries :=
  let text := dropMark source.toList
  (Reading.readLines (text.length + 1) ⟨[], []⟩ text).map Reading.root

end CardShell.Toml
