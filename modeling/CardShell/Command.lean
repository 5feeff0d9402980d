import CardShell.Text.Blank

/-!
# Shell commands

The first word of a line names a command and the rest is its argument.  Leading
`%` signs and then one `m_` in front of the name do not count, and blank lines
and lines that start with `#` do nothing.
-/

namespace CardShell

/-- What a line asks for. -/
inductive Command where
  | query (instruction : String)
  | row (number : String)
  | columns (entity : String)
  | database (name : String)
  | entities
  | help
  | exit
  | empty
  | unknown (name : String)
deriving DecidableEq, Repr

namespace Command

/-- The command that a name without ornaments and an argument make. -/
def ofName (name argument : String) : Command :=
  match name with
  | "query" | "q" => .query argument
  | "show" | "s" => .row argument
  | "cols" => .columns argument
  | "sql" => .database argument
  | "entities" => .entities
  | "help" | "?" => .help
  | "exit" | "quit" => .exit
  | _ => .unknown name

/-- A name without its leading `%` signs and without one `m_` behind them. -/
def plainName (word : List Char) : List Char :=
  match word.dropWhile (· == '%') with
  | 'm' :: '_' :: name => name
  | name => name

/-- Read a line whose blanks are trimmed. -/
def ofTrimmed (line : List Char) : Command :=
  match line with
  | [] => .empty
  | '#' :: _ => .empty
  | line =>
      ofName (String.ofList (plainName (Text.firstWord line)))
        (String.ofList (Text.trim (Text.afterFirstWord line)))

/-- Read a line. -/
def read (line : String) : Command :=
  ofTrimmed (Text.trim line.toList)

end Command

end CardShell
