import CardShell.ColumnChoice
import CardShell.Failure
import CardShell.Toml.Document

/-!
# Column choices as documents

A document chooses columns in its table `columns`, which maps the names of
entities to arrays of column names.  The table may be missing; other keys of the
document do not matter.
-/

namespace CardShell.ColumnChoice

/-- The text of a node. -/
def textOf? : Toml.Node → Option String
  | .text content => some content
  | _ => none

/-- The column names of an entity. -/
def columnsOf? : Toml.Node → Option (List String)
  | .array items => items.mapM textOf?
  | _ => none

/-- The choice that a table makes. -/
def ofEntries? (entries : Toml.Entries) : Option ColumnChoice :=
  (entries.mapM fun entry => (columnsOf? entry.2).map fun columns => (entry.1, columns)).map
    ColumnChoice.mk

/-- The choice that a root table makes. -/
def ofRoot? (root : Toml.Entries) : Option ColumnChoice :=
  match root.lookup "columns" with
  | none => some .empty
  | some (.table _ entries) => ofEntries? entries
  | some _ => none

/-- The choice that a document makes, and nothing beside it. -/
def ofDocument (source : String) : Except ConfigError ColumnChoice :=
  match (Toml.document? source).bind ofRoot? with
  | some choice => .ok choice
  | none => .error .invalidDocument

/-- The standard choice, overridden by a document for each entity that it
names. -/
def standardWith (source : String) : Except ConfigError ColumnChoice :=
  (ofDocument source).map standard.override

end CardShell.ColumnChoice
