/-!
# Paths

A path is cut at its slashes.  Empty parts and dots do not count, except for a
dot at the start, and a path that starts with a slash starts at the root, which
is its first part.
-/

namespace CardShell.Path

/-- A part of a path. -/
abbrev Part :=
  List Char

/-- The first part of the paths that start at the root. -/
def root : Part :=
  ['/']

/-- The part that stays in its directory. -/
def here : Part :=
  ['.']

/-- The part that goes up. -/
def up : Part :=
  ['.', '.']

/-- The parts of a path. -/
def parts (path : String) : List Part :=
  match path.toList.splitOn '/' with
  | [] => []
  | first :: rest =>
      let start :=
        if path.toList.head? = some '/' then [root] else if first.isEmpty then [] else [first]
      start ++ rest.filter fun part => !part.isEmpty && part != here

/-- The parts of the directory of a path, if it has one. -/
def parent? (path : String) : Option (List Part) :=
  match (parts path).getLast? with
  | none => none
  | some last => if last = root then none else some (parts path).dropLast

/-- The last part of a path, if it is a name. -/
def fileName? (path : String) : Option Part :=
  (parts path).getLast?.filter fun last => !([root, here, up].contains last)

/-- Add a part below a directory, which is given in reverse. -/
def enter (directory : List Part) (part : Part) : List Part :=
  if part.isEmpty || part == here then directory
  else if part == up then
    match directory with
    | [] => [up]
    | top :: rest => if top == up then up :: directory else if top == root then directory else rest
  else part :: directory

/-- Parts without dots, and without those that go up where a part to go up from
is known. -/
def normal (parts : List Part) : List Part :=
  (parts.foldl enter []).reverse

/-- The places on the way to a normal path. -/
def above (path : List Part) : List (List Part) :=
  (List.range path.length).map path.take

/-- Whether a path ends in a slash or a dot, and so names a directory. -/
def namesDirectory (path : String) : Bool :=
  match (path.toList.splitOn '/').getLast? with
  | some last => last.isEmpty || last == here
  | none => false

end CardShell.Path
