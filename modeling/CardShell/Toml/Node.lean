/-!
# Tables of a TOML document

A document is a tree of tables.  How a table came to be decides what may still
be added to it: a header opens a table once, a dotted key opens one that no
header may open again, an inline table is complete as written, and a table that
was only passed on the way to another may still get its own header.
-/

namespace CardShell.Toml

/-- How a table came to be. -/
inductive Origin where
  | /-- Passed by a header on the way to a table inside it. -/
    implied
  | /-- Opened by its own header. -/
    header
  | /-- Passed by a dotted key. -/
    dotted
  | /-- Written in braces. -/
    closed
deriving DecidableEq, Repr

/-- A value or a table.  Numbers, booleans and dates are checked by the reader
and carry no content. -/
inductive Node where
  | scalar
  | text (content : String)
  | array (items : List Node)
  | table (origin : Origin) (entries : List (String × Node))
  | /-- The tables opened by double-bracket headers; the last one is open. -/
    tables (elements : List (List (String × Node)))
deriving Repr, Inhabited

/-- The keys of a table with their values. -/
abbrev Entries :=
  List (String × Node)

namespace Entries

/-- Replace the value of a key that is present. -/
def replace (key : String) (node : Node) (entries : Entries) : Entries :=
  entries.map fun entry => if entry.1 = key then (key, node) else entry

/-- Add a key that is not present. -/
def add? (key : String) (node : Node) (entries : Entries) : Option Entries :=
  if (entries.lookup key).isSome then none else some (entries ++ [(key, node)])

/-- Change the table at a path of header keys, opening implied tables on the
way.  In an array of tables the last one is meant. -/
def updateUnderHeader (change : Entries → Option Entries) :
    List String → Entries → Option Entries
  | [], entries => change entries
  | key :: path, entries =>
      match entries.lookup key with
      | none => do
          let inner ← updateUnderHeader change path []
          pure (entries ++ [(key, .table .implied inner)])
      | some (.table .closed _) => none
      | some (.table origin inner) => do
          let inner ← updateUnderHeader change path inner
          pure (replace key (.table origin inner) entries)
      | some (.tables elements) => do
          let last ← updateUnderHeader change path (elements.getLast?.getD [])
          pure (replace key (.tables (elements.dropLast ++ [last])) entries)
      | some _ => none

/-- Change the table at a path of dotted keys.  The table meant must have been
opened by dotted keys; those on the way must not have a header of their own. -/
def updateUnderDots (change : Entries → Option Entries) :
    List String → Entries → Option Entries
  | [], entries => change entries
  | key :: path, entries =>
      match entries.lookup key with
      | none => do
          let inner ← updateUnderDots change path []
          pure (entries ++ [(key, .table .dotted inner)])
      | some (.table .closed _) => none
      | some (.table .header _) => none
      | some (.table .implied inner) =>
          if path.isEmpty then none
          else do
            let inner ← updateUnderDots change path inner
            pure (replace key (.table .implied inner) entries)
      | some (.table .dotted inner) => do
          let inner ← updateUnderDots change path inner
          pure (replace key (.table .dotted inner) entries)
      | some (.tables elements) =>
          if path.isEmpty then none
          else do
            let last ← updateUnderDots change path (elements.getLast?.getD [])
            pure (replace key (.tables (elements.dropLast ++ [last])) entries)
      | some _ => none

/-- Set a dotted key to a value. -/
def assign? (path : List String) (node : Node) (entries : Entries) : Option Entries :=
  match path.getLast? with
  | none => none
  | some key => updateUnderDots (add? key node) path.dropLast entries

/-- Open a table by its header. -/
def openTable? (path : List String) (entries : Entries) : Option Entries :=
  match path.getLast? with
  | none => none
  | some key =>
      updateUnderHeader
        (fun parent =>
          match parent.lookup key with
          | none => some (parent ++ [(key, .table .header [])])
          | some (.table .implied inner) => some (replace key (.table .header inner) parent)
          | some _ => none)
        path.dropLast entries

/-- Open the next table of an array of tables by its header. -/
def openElement? (path : List String) (entries : Entries) : Option Entries :=
  match path.getLast? with
  | none => none
  | some key =>
      updateUnderHeader
        (fun parent =>
          match parent.lookup key with
          | none => some (parent ++ [(key, .tables [[]])])
          | some (.tables elements) => some (replace key (.tables (elements ++ [[]])) parent)
          | some _ => none)
        path.dropLast entries

end Entries

end CardShell.Toml
