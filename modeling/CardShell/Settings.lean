import CardShell.Location

/-!
# Settings

The settings name the two databases and, if there is one, the file that chooses
the shown columns.  Each comes from a variable of the environment or has a
default; a variable that is set counts even when it is empty.
-/

namespace CardShell

/-- Variables by name.  The first entry of a name counts. -/
abbrev Environment :=
  List (String × String)

/-- Where the program finds its data. -/
structure Settings where
  catalogUri : String := "sqlite:///data/mtgjson/AllPrintings.sqlite"
  inventoryUri : String := "sqlite:///data/inventory.sqlite"
  columnsFile : Option String := none
deriving DecidableEq, Repr

namespace Settings

/-- The variable that names the card catalog. -/
def catalogVariable : String :=
  "MTG_JSON_SQLITE_URI"

/-- The variable that names the inventory. -/
def inventoryVariable : String :=
  "INVENTORY_SQLITE_URI"

/-- The variable that names the file with the shown columns. -/
def columnsVariable : String :=
  "MTGDB_DISPLAY_CONFIG"

/-- The settings of an environment. -/
def ofEnvironment (environment : Environment) : Settings :=
  let defaults : Settings := {}
  { catalogUri := (environment.lookup catalogVariable).getD defaults.catalogUri
    inventoryUri := (environment.lookup inventoryVariable).getD defaults.inventoryUri
    columnsFile := environment.lookup columnsVariable }

/-- The location of the card catalog. -/
def catalogLocation (settings : Settings) : Except ConfigError Location :=
  Location.ofUri settings.catalogUri

/-- The location of the inventory. -/
def inventoryLocation (settings : Settings) : Except ConfigError Location :=
  Location.ofUri settings.inventoryUri

end Settings

end CardShell
