import CardShell.Instruction
import CardShell.Notice

/-!
# Reading instructions

The first word names the entity.  The rest is cut at every `|` into segments,
and each segment at its first colon into tag and content; blanks around all of
these are dropped.  A segment with an unknown tag gives a notice and no clause.
Reading stops at the first segment that is wrong, so what follows it neither
matters nor gives notices.
-/

namespace CardShell

/-- What one segment says. -/
inductive Segment where
  | clause (clause : Clause)
  | unknown (tag text : String)
deriving DecidableEq, Repr

namespace Segment

/-- The clause of a limit: a numeral that is not negative and fits in a signed
64-bit word. -/
def readLimit (content : List Char) : Except InstructionError Clause :=
  match Text.int64? content with
  | some (.ofNat count) => .ok (.limit count)
  | _ => .error (.invalidLimit (String.ofList content))

/-- Read a segment whose tag and content are cut and trimmed.  Tags are single
letters and case matters. -/
def ofParts (segment tag content : List Char) : Except InstructionError Segment :=
  match tag with
  | ['w'] => .ok (.clause (.filter (String.ofList content)))
  | ['l'] => (readLimit content).map .clause
  | ['g'] => .ok (.clause (.groupBy (String.ofList content)))
  | ['o'] => .ok (.clause (.orderBy (String.ofList content)))
  | _ => .ok (.unknown (String.ofList tag) (String.ofList segment))

/-- Read the text between two separators. -/
def read (text : List Char) : Except InstructionError Segment :=
  let segment := Text.trim text
  match Text.cutAt ':' segment with
  | none => .error (.malformedClause (String.ofList segment))
  | some (tag, content) => ofParts segment (Text.trim tag) (Text.trim content)

/-- Read segments up to the first wrong one. -/
def readAll : List (List Char) → Noted InstructionError (List Clause)
  | [] => .pure []
  | text :: texts =>
      match read text with
      | .error failure => .fail failure
      | .ok (.clause first) => (readAll texts).map (first :: ·)
      | .ok (.unknown tag segment) => (readAll texts).after [.unknownTag tag segment]

end Segment

namespace Instruction

/-- Read what stands behind the entity; when it is blank there are no
clauses. -/
def readClauses (text : List Char) : Noted InstructionError (List Clause) :=
  let text := Text.trim text
  if text.isEmpty then .pure [] else Segment.readAll (text.splitOn '|')

/-- Read an instruction. -/
def read (input : String) : Noted InstructionError Instruction :=
  let text := Text.trim input.toList
  let entity := Text.firstWord text
  if isEntityName entity then
    (readClauses (Text.afterFirstWord text)).map fun clauses =>
      ⟨String.ofList entity, clauses⟩
  else .fail .noEntity

end Instruction

end CardShell
