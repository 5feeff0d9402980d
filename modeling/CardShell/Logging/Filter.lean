import CardShell.Failure

/-!
# Log filters

A filter is a list of directives between commas.  A directive is a level, or a
target that may be narrowed to a span in brackets and may be followed by a
level; without a level everything passes.  Only a level that is none, or a
directive that has not this form, makes a text no filter.
-/

namespace CardShell

/-- How much a log line matters. -/
inductive LogLevel where
  | off
  | error
  | warn
  | info
  | debug
  | trace
deriving DecidableEq, Repr

namespace LogLevel

/-- The levels by rank. -/
def all : List LogLevel :=
  [.off, .error, .warn, .info, .debug, .trace]

/-- The name of a level. -/
def name : LogLevel → String
  | .off => "off"
  | .error => "error"
  | .warn => "warn"
  | .info => "info"
  | .debug => "debug"
  | .trace => "trace"

/-- The value of a rank, which may have a plus in front. -/
def rank? : List Char → Option Nat
  | '+' :: digits => Text.natural? digits
  | digits => Text.natural? digits

/-- Read a level: its rank, or its name in letters of any case. -/
def read? (text : List Char) : Option LogLevel :=
  match rank? text with
  | some rank => all[rank]?
  | none => all.find? fun level => level.name.toList == text.map Char.toLower

end LogLevel

/-- What a filter says about one target. -/
structure Directive where
  target : Option String
  span : Option String
  level : LogLevel
deriving DecidableEq, Repr

namespace Directive

/-- Whether a directive may start with a character.  Every character beyond ASCII counts as a
letter here. -/
def opens (character : Char) : Bool :=
  character.isAlphanum || "-:_[".toList.contains character || 127 < character.toNat

/-- The level behind an equals sign.  No text stands for every level. -/
def levelOf (text : List Char) : Except FilterError LogLevel :=
  if text.isEmpty then .ok .trace
  else
    match LogLevel.read? text with
    | some level => .ok level
    | none => .error .level

/-- The level behind a span. -/
def levelAfterSpan : List Char → Except FilterError LogLevel
  | [] => .ok .trace
  | '=' :: text => levelOf text
  | _ => .error .directive

/-- What stands behind the fields of a span, which end at a closing brace. -/
def afterFields (text : List Char) : Except FilterError (List Char) :=
  match text.span (· != '}') with
  | (_ :: _, '}' :: ']' :: rest) => .ok rest
  | _ => .error .directive

/-- The name of a span and what stands behind its closing bracket. -/
def spanOf (text : List Char) : Except FilterError (List Char × List Char) :=
  match text.span fun character => character != ']' && character != '{' with
  | (name, ']' :: rest) => .ok (name, rest)
  | (name, '{' :: rest) => (afterFields rest).map fun rest => (name, rest)
  | _ => .error .directive

/-- A text, if there is any. -/
def some? (text : List Char) : Option String :=
  if text.isEmpty then none else some (String.ofList text)

/-- Read a directive that starts as one may. -/
def ofOpened (text : List Char) : Except FilterError Directive :=
  match text.span fun character => character != '=' && character != '[' with
  | (target, '=' :: level) => (levelOf level).map fun level => ⟨some? target, none, level⟩
  | (target, '[' :: rest) => do
      let (name, rest) ← spanOf rest
      let level ← levelAfterSpan rest
      pure ⟨some? target, some? name, level⟩
  | (word, _) =>
      match LogLevel.read? word with
      | some level => .ok ⟨none, none, level⟩
      | none => .ok ⟨some? word, none, .trace⟩

/-- Read a directive. -/
def read (text : List Char) : Except FilterError Directive :=
  match text with
  | first :: _ => if opens first then ofOpened text else .error .directive
  | [] => .error .directive

end Directive

/-- Which log lines pass. -/
abbrev Filter :=
  List Directive

namespace Filter

/-- How texts are read as filters. -/
abbrev Reader :=
  String → Except FilterError Filter

/-- Read a filter.  Nothing between two commas is no directive. -/
def read : Reader := fun text =>
  ((text.toList.splitOn ',').filter fun part => !part.isEmpty).mapM Directive.read

end Filter

end CardShell
