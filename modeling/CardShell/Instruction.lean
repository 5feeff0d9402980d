import CardShell.Text.Blank
import CardShell.Text.Numeral

/-!
# Query instructions

An instruction names an entity and lists clauses that narrow, group, order or
cap its rows.  Its written form is the entity, one space, and the clauses
separated by `|`, each a one-letter tag, a colon and a content.  The canonical
instructions are those that their written form determines.
-/

namespace CardShell

/-- One clause.  Only a limit has a number as its content. -/
inductive Clause where
  | filter (condition : String)
  | limit (count : Nat)
  | groupBy (terms : String)
  | orderBy (terms : String)
deriving DecidableEq, Repr, Inhabited

namespace Clause

/-- The letter that marks the kind of a clause. -/
def tag : Clause → String
  | .filter _ => "w"
  | .limit _ => "l"
  | .groupBy _ => "g"
  | .orderBy _ => "o"

/-- The content of a clause as text. -/
def content : Clause → String
  | .filter condition => condition
  | .limit count => Text.ofNat count
  | .groupBy terms => terms
  | .orderBy terms => terms

/-- The written form: tag, colon, content. -/
def text (clause : Clause) : String :=
  clause.tag ++ ":" ++ clause.content

/-- A content text that survives being written and read: it holds no clause
separator and has no blanks at its ends. -/
def CanonicalContent (content : String) : Prop :=
  '|' ∉ content.toList ∧ Text.trim content.toList = content.toList

/-- A clause that survives being written and read. -/
def Canonical : Clause → Prop
  | .filter condition => CanonicalContent condition
  | .limit count => (count : Int) ≤ Text.maxInt64
  | .groupBy terms => CanonicalContent terms
  | .orderBy terms => CanonicalContent terms

end Clause

/-- An entity name with clauses in source order. -/
structure Instruction where
  entity : String
  clauses : List Clause
deriving DecidableEq, Repr, Inhabited

namespace Instruction

/-- The characters of entity names in instructions. -/
def isEntityChar (character : Char) : Bool :=
  character.isAlphanum || character == '_'

/-- Whether a word is the name of an entity. -/
def isEntityName (word : List Char) : Bool :=
  !word.isEmpty && word.all isEntityChar

/-- The written form. -/
def text (instruction : Instruction) : String :=
  if instruction.clauses.isEmpty then instruction.entity
  else
    instruction.entity ++ " " ++ String.intercalate "|" (instruction.clauses.map Clause.text)

/-- An instruction that its written form determines. -/
def Canonical (instruction : Instruction) : Prop :=
  isEntityName instruction.entity.toList ∧ ∀ clause ∈ instruction.clauses, clause.Canonical

end Instruction

/-- Why a text is no instruction. -/
inductive InstructionError where
  | /-- The first word is not the name of an entity. -/
    noEntity
  | /-- A segment has no colon. -/
    malformedClause (segment : String)
  | /-- The content of a limit is no numeral from zero to the greatest signed
    64-bit value. -/
    invalidLimit (content : String)
deriving DecidableEq, Repr

/-- The wording of an instruction error. -/
def InstructionError.message : InstructionError → String
  | .noEntity => "invalid instruction"
  | .malformedClause segment => "malformed clause: [" ++ segment ++ "]"
  | .invalidLimit content =>
      "invalid limit: [" ++ content ++ "] (must be a non-negative integer)"

end CardShell
