import CardShell.Failure
import CardShell.Sql.Statement

/-!
# Reading statements

The lexemes of a statement are read one by one by a machine with a stack.  Its
state says what may come next, and the stack holds the open parentheses of the
condition, so the first lexeme that no statement could have at its place is the
one that the error names.  `and` binds tighter than `or`, and `not` tighter than
both.
-/

namespace CardShell.Sql

/-- The words that have a meaning of their own in the statements read here:
`source` is `from`, `filter` is `where`, `terms` is `by` and `among` is `in`. -/
inductive Keyword where
  | select
  | source
  | filter
  | group
  | order
  | terms
  | limit
  | and
  | or
  | not
  | is
  | null
  | like
  | among
  | between
  | asc
  | desc
deriving DecidableEq, Repr

/-- The keyword that a word is, in upper or lower case. -/
def keyword? (word : String) : Option Keyword :=
  match word.toLower with
  | "select" => some .select
  | "from" => some .source
  | "where" => some .filter
  | "group" => some .group
  | "order" => some .order
  | "by" => some .terms
  | "limit" => some .limit
  | "and" => some .and
  | "or" => some .or
  | "not" => some .not
  | "is" => some .is
  | "null" => some .null
  | "like" => some .like
  | "in" => some .among
  | "between" => some .between
  | "asc" => some .asc
  | "desc" => some .desc
  | _ => none

/-- The words that name no column unless they are quoted. -/
def reservedWords : List String :=
  ["add", "all", "alter", "and", "as", "autoincrement", "between", "case", "cast", "check",
    "collate", "commit", "constraint", "create", "current_date", "current_time",
    "current_timestamp", "default", "deferrable", "delete", "distinct", "drop", "else", "escape",
    "except", "exists", "foreign", "from", "group", "having", "in", "index", "insert",
    "intersect", "into", "is", "isnull", "join", "limit", "not", "nothing", "notnull", "null",
    "on", "or", "order", "primary", "raise", "references", "returning", "select", "set", "table",
    "then", "to", "transaction", "union", "unique", "update", "using", "values", "when", "where",
    "with"]

namespace Token

/-- The keyword that a token is. -/
def keyword? : Token → Option Keyword
  | .word spelling => Sql.keyword? spelling
  | _ => none

/-- The name that a token is. -/
def name? : Token → Option String
  | .word spelling => if reservedWords.contains spelling.toLower then none else some spelling
  | .quoted name => some name
  | _ => none

end Token

/-- The value of the digits and the fraction of a number, with its exponent. -/
def decimalParts (spelling : List Char) : Nat × Int :=
  let mantissa := spelling.takeWhile fun character => !isExponentMark character
  let exponent := (spelling.dropWhile fun character => !isExponentMark character).drop 1
  let fraction := (mantissa.dropWhile (· != '.')).drop 1
  (Nat.ofDigitChars 10 (mantissa.filter (· != '.')) 0,
    (Text.integer? exponent).getD 0 - fraction.length)

/-- The value of an unsigned number with a sign: an integer when it consists of
digits and fits in a signed 64-bit word, and else a binary64 number. -/
def numberValue (negative : Bool) (spelling : List Char) : Value :=
  let asReal :=
    let parts := decimalParts spelling
    Value.real (Binary64.ofDecimal negative parts.1 parts.2)
  match Text.natural? spelling with
  | some magnitude =>
      let value : Int := if negative then -magnitude else magnitude
      if Text.fitsInt64 value then .integer value else asReal
  | none => asReal

/-- The bytes of pairs of hexadecimal digits. -/
def hexBytes : List Char → List UInt8
  | high :: low :: rest =>
      UInt8.ofNat (16 * digit high + digit low) :: hexBytes rest
  | _ => []
where
  /-- The value of one digit. -/
  digit (character : Char) : Nat :=
    if character.isDigit then character.toNat - '0'.toNat
    else character.toLower.toNat - 'a'.toNat + 10

/-- An open parenthesis of a condition: what its `or` and its last `and` have
joined so far, and whether the next operand is negated. -/
structure Level where
  disjunction : Option (Condition ColumnName)
  conjunction : Option (Condition ColumnName)
  negated : Bool
deriving DecidableEq, Repr

namespace Level

/-- Nothing read yet. -/
def empty : Level :=
  ⟨none, none, false⟩

/-- Take an operand. -/
def take (level : Level) (operand : Condition ColumnName) : Level :=
  let operand := operand.negatedIf level.negated
  { level with
    conjunction := some (match level.conjunction with
      | some left => .and left operand
      | none => operand)
    negated := false }

/-- What the level says, when an operand was read last. -/
def value? (level : Level) : Option (Condition ColumnName) :=
  match level.disjunction, level.conjunction with
  | some left, some right => some (.or left right)
  | none, right => right
  | some _, none => none

/-- Go on behind `or`. -/
def disjoin (level : Level) : Level :=
  ⟨level.value?, none, false⟩

end Level

/-- What a literal is read for. -/
inductive Slot where
  | compared (column : ColumnName) (comparison : Comparison)
  | pattern (column : ColumnName) (negated : Bool)
  | item (column : ColumnName) (negated : Bool) (items : List Value)
  | low (column : ColumnName) (negated : Bool)
  | high (column : ColumnName) (negated : Bool) (low : Value)
deriving DecidableEq, Repr

/-- What may come next in a condition. -/
inductive Expected where
  | /-- An operand. -/
    operand
  | /-- The rest of a test behind its column, which may yet turn out to be the
    qualifier of one. -/
    test (column : ColumnName)
  | /-- A name behind a qualifier and its dot. -/
    qualified (qualifier : String) (offset : Nat)
  | /-- `null` or `not null`. -/
    nullTest (column : ColumnName)
  | /-- `null` behind `is not`. -/
    notNull (column : ColumnName)
  | /-- `like`, `in` or `between` behind `not`. -/
    negatedTest (column : ColumnName)
  | /-- The parenthesis of a list. -/
    listStart (column : ColumnName) (negated : Bool)
  | /-- A literal, perhaps behind its sign. -/
    literal (slot : Slot) (sign : Option Bool)
  | /-- A comma or the end of a list, the items in reverse. -/
    listEnd (column : ColumnName) (negated : Bool) (items : List Value)
  | /-- `and` between the bounds of a range. -/
    rangeAnd (column : ColumnName) (negated : Bool) (low : Value)
  | /-- Anything that may stand behind an operand. -/
    connective
deriving DecidableEq, Repr

/-- A condition being read: what may come next, the innermost open parenthesis
and those around it. -/
structure Pending where
  expected : Expected
  level : Level
  outer : List Level
deriving DecidableEq, Repr

namespace Pending

/-- Nothing read yet. -/
def start : Pending :=
  ⟨.operand, .empty, []⟩

/-- Expect something else. -/
def expect (pending : Pending) (expected : Expected) : Pending :=
  { pending with expected }

/-- Take an operand that is complete. -/
def take (pending : Pending) (operand : Condition ColumnName) : Pending :=
  { pending with expected := .connective, level := pending.level.take operand }

/-- Take a test that may be negated. -/
def takeTest (pending : Pending) (negated : Bool) (test : Condition ColumnName) : Pending :=
  pending.take (test.negatedIf negated)

/-- Put a literal where it belongs. -/
def fill (pending : Pending) (slot : Slot) (value : Value) : Pending :=
  match slot with
  | .compared column comparison => pending.take (.compare column comparison value)
  | .pattern column negated => pending.takeTest negated (.like column value)
  | .item column negated items => pending.expect (.listEnd column negated (value :: items))
  | .low column negated => pending.expect (.rangeAnd column negated value)
  | .high column negated low => pending.takeTest negated (.between column low value)

/-- Read the keyword of a test that can be negated. -/
def startTest? (pending : Pending) (column : ColumnName) (negated : Bool) :
    Keyword → Option Pending
  | .like => some (pending.expect (.literal (.pattern column negated) none))
  | .among => some (pending.expect (.listStart column negated))
  | .between => some (pending.expect (.literal (.low column negated) none))
  | _ => none

/-- Read a literal.  Only a number may have a sign. -/
def literal? (pending : Pending) (slot : Slot) (sign : Option Bool) (token : Token) :
    Option Pending :=
  match token, sign with
  | .number text, _ => some (pending.fill slot (numberValue (sign.getD false) text.toList))
  | .minus, none => some (pending.expect (.literal slot (some true)))
  | .plus, none => some (pending.expect (.literal slot (some false)))
  | .text content, none => some (pending.fill slot (.text content))
  | .blob digits, none => some (pending.fill slot (.blob (hexBytes digits.toList)))
  | .closeParen, none =>
      match slot with
      | .item column negated [] => some (pending.takeTest negated (.oneOf column []))
      | _ => none
  | token, none => if token.keyword? = some .null then some (pending.fill slot .null) else none
  | _, some _ => none

/-- Read what may stand behind an operand. -/
def connective? (pending : Pending) (token : Token) : Option Pending :=
  match token, token.keyword? with
  | _, some .and => some (pending.expect .operand)
  | _, some .or => some { pending with expected := .operand, level := pending.level.disjoin }
  | .closeParen, _ =>
      match pending.outer, pending.level.value? with
      | level :: outer, some operand => some (Pending.take ⟨.connective, level, outer⟩ operand)
      | _, _ => none
  | _, _ => none

/-- Read one lexeme of a condition. -/
def step? (pending : Pending) (lexeme : Lexeme) : Option Pending :=
  let token := lexeme.token
  match pending.expected with
  | .operand =>
      match token, token.keyword?, token.name? with
      | .openParen, _, _ => some ⟨.operand, .empty, pending.level :: pending.outer⟩
      | _, some .not, _ =>
          some { pending with level := { pending.level with negated := !pending.level.negated } }
      | _, _, some name => some (pending.expect (.test ⟨none, name, lexeme.offset⟩))
      | _, _, _ => none
  | .test column =>
      match token, token.keyword?, column.qualifier with
      | .dot, _, none => some (pending.expect (.qualified column.name column.offset))
      | .comparison comparison, _, _ =>
          some (pending.expect (.literal (.compared column comparison) none))
      | _, some .is, _ => some (pending.expect (.nullTest column))
      | _, some .not, _ => some (pending.expect (.negatedTest column))
      | _, some keyword, _ => pending.startTest? column false keyword
      | _, _, _ => none
  | .qualified qualifier offset =>
      token.name?.map fun name => pending.expect (.test ⟨some qualifier, name, offset⟩)
  | .nullTest column =>
      match token.keyword? with
      | some .null => some (pending.take (.isNull column))
      | some .not => some (pending.expect (.notNull column))
      | _ => none
  | .notNull column =>
      if token.keyword? = some .null then some (pending.take (.not (.isNull column))) else none
  | .negatedTest column => token.keyword?.bind (pending.startTest? column true)
  | .listStart column negated =>
      if token = .openParen then some (pending.expect (.literal (.item column negated []) none))
      else none
  | .literal slot sign => pending.literal? slot sign token
  | .listEnd column negated items =>
      match token with
      | .comma => some (pending.expect (.literal (.item column negated items) none))
      | .closeParen => some (pending.takeTest negated (.oneOf column items.reverse))
      | _ => none
  | .rangeAnd column negated low =>
      if token.keyword? = some .and then
        some (pending.expect (.literal (.high column negated low) none))
      else none
  | .connective => pending.connective? token

/-- The condition, when it is complete and no parenthesis is open. -/
def finish? (pending : Pending) : Option (Condition ColumnName) :=
  match pending.expected, pending.outer with
  | .connective, [] => pending.level.value?
  | _, _ => none

end Pending

/-- What may come next in a statement. -/
inductive Phase where
  | select
  | star
  | source
  | table
  | clause
  | condition (pending : Pending)
  | groupBy
  | groupTerm
  | groupQualified (qualifier : String) (offset : Nat)
  | groupEnd (column : ColumnName)
  | orderBy
  | orderTerm
  | orderQualified (qualifier : String) (offset : Nat)
  | orderEnd (column : ColumnName)
  | orderDirected
  | limit
  | finished
deriving DecidableEq, Repr

/-- A statement being read. -/
structure Reader where
  phase : Phase
  statement : Statement ColumnName
deriving DecidableEq, Repr

namespace Reader

/-- Nothing read yet. -/
def start : Reader :=
  ⟨.select, ⟨"", 0, none, [], [], none⟩⟩

/-- Go on in another phase. -/
def goTo (reader : Reader) (phase : Phase) : Reader :=
  { reader with phase }

/-- Add a group term. -/
def addGrouping (reader : Reader) (column : ColumnName) : Reader :=
  { reader with
    statement := { reader.statement with groupings := reader.statement.groupings ++ [column] } }

/-- Add an order term. -/
def addOrdering (reader : Reader) (column : ColumnName) (descending : Bool) : Reader :=
  { reader with
    statement :=
      { reader.statement with
        orderings := reader.statement.orderings ++ [⟨column, descending⟩] } }

/-- Read the keyword of a later part.  The parts come in the order condition,
groups, order, limit, and each at most once. -/
def nextPart? (reader : Reader) (parts : List Keyword) (token : Token) : Option Reader :=
  match token.keyword? with
  | some keyword =>
      if parts.contains keyword then
        match keyword with
        | .filter => some (reader.goTo (.condition .start))
        | .group => some (reader.goTo .groupBy)
        | .order => some (reader.goTo .orderBy)
        | .limit => some (reader.goTo .limit)
        | _ => none
      else none
  | none => none

/-- Read one lexeme. -/
def step? (reader : Reader) (lexeme : Lexeme) : Option Reader :=
  let token := lexeme.token
  let keyword (expected : Keyword) (phase : Phase) : Option Reader :=
    if token.keyword? = some expected then some (reader.goTo phase) else none
  match reader.phase with
  | .select => keyword .select .star
  | .star => if token = .star then some (reader.goTo .source) else none
  | .source => keyword .source .table
  | .table =>
      token.name?.map fun name =>
        ⟨.clause, { reader.statement with table := name, tableOffset := lexeme.offset }⟩
  | .clause => reader.nextPart? [.filter, .group, .order, .limit] token
  | .condition pending =>
      match pending.step? lexeme with
      | some next => some (reader.goTo (.condition next))
      | none =>
          pending.finish?.bind fun condition =>
            nextPart? { reader with
              statement := { reader.statement with condition := some condition } }
              [.group, .order, .limit] token
  | .groupBy => keyword .terms .groupTerm
  | .groupTerm =>
      token.name?.map fun name => reader.goTo (.groupEnd ⟨none, name, lexeme.offset⟩)
  | .groupQualified qualifier offset =>
      token.name?.map fun name => reader.goTo (.groupEnd ⟨some qualifier, name, offset⟩)
  | .groupEnd column =>
      match token, column.qualifier with
      | .dot, none => some (reader.goTo (.groupQualified column.name column.offset))
      | .comma, _ => some ((reader.addGrouping column).goTo .groupTerm)
      | _, _ => (reader.addGrouping column).nextPart? [.order, .limit] token
  | .orderBy => keyword .terms .orderTerm
  | .orderTerm =>
      token.name?.map fun name => reader.goTo (.orderEnd ⟨none, name, lexeme.offset⟩)
  | .orderQualified qualifier offset =>
      token.name?.map fun name => reader.goTo (.orderEnd ⟨some qualifier, name, offset⟩)
  | .orderEnd column =>
      match token, token.keyword?, column.qualifier with
      | .dot, _, none => some (reader.goTo (.orderQualified column.name column.offset))
      | .comma, _, _ => some ((reader.addOrdering column false).goTo .orderTerm)
      | _, some .asc, _ => some ((reader.addOrdering column false).goTo .orderDirected)
      | _, some .desc, _ => some ((reader.addOrdering column true).goTo .orderDirected)
      | _, _, _ => (reader.addOrdering column false).nextPart? [.limit] token
  | .orderDirected =>
      if token = .comma then some (reader.goTo .orderTerm)
      else reader.nextPart? [.limit] token
  | .limit =>
      match token with
      | .number text =>
          (Text.natural? text.toList).map fun count =>
            ⟨.finished, { reader.statement with limit := some count }⟩
      | _ => none
  | .finished => none

/-- The statement, when it may end here. -/
def finish? (reader : Reader) : Option (Statement ColumnName) :=
  match reader.phase with
  | .clause | .orderDirected | .finished => some reader.statement
  | .condition pending =>
      pending.finish?.map fun condition =>
        { reader.statement with condition := some condition }
  | .groupEnd column => some (reader.addGrouping column).statement
  | .orderEnd column => some (reader.addOrdering column false).statement
  | _ => none

/-- Read one lexeme or refuse it. -/
def step (sql : String) (reader : Reader) (lexeme : Lexeme) : Except StorageError Reader :=
  if lexeme.token = .illegal then
    .error (.unrecognizedToken lexeme.spelling sql lexeme.offset)
  else
    match reader.step? lexeme with
    | some next => .ok next
    | none => .error (.syntaxNear lexeme.spelling sql lexeme.offset)

end Reader

/-- Read a statement. -/
def read (sql : String) : Except StorageError (Statement ColumnName) := do
  let reader ← (lexemes sql.toList).foldlM (Reader.step sql) .start
  match reader.finish? with
  | some statement => .ok statement
  | none => .error .incompleteInput

end CardShell.Sql
