import CardShell.Proofs.Sql.Lexing

/-!
# Expressions

The conditions that statements may have, as a grammar on lexemes that says nothing
of how they are read: tests of columns against literals, negations, conjunctions,
which bind tighter than disjunctions, and parentheses.  The reader takes every
expression for the condition that it spells, in any context: what was read before
it and the parentheses around it stay as they were.
-/

namespace CardShell.Sql

/-- A lexeme is a keyword, in upper or lower case. -/
def Lexeme.Is (lexeme : Lexeme) (keyword : Keyword) : Prop :=
  lexeme.token.keyword? = some keyword

/-! ## The grammar -/

/-- A column is a name or a table and a name with a dot between them. -/
inductive SpellsColumn : List Lexeme → ColumnName → Prop
  | bare {lexeme : Lexeme} {name : String} : lexeme.token.name? = some name →
      SpellsColumn [lexeme] ⟨none, name, lexeme.offset⟩
  | qualified {table dot lexeme : Lexeme} {qualifier name : String} :
      table.token.name? = some qualifier → dot.token = .dot → lexeme.token.name? = some name →
      SpellsColumn [table, dot, lexeme] ⟨some qualifier, name, table.offset⟩

/-- A literal is a number, perhaps with a sign, a text, a byte string or null. -/
inductive SpellsLiteral : List Lexeme → Value → Prop
  | number {lexeme : Lexeme} {digits : String} : lexeme.token = .number digits →
      SpellsLiteral [lexeme] (numberValue false digits.toList)
  | positive {sign lexeme : Lexeme} {digits : String} : sign.token = .plus →
      lexeme.token = .number digits →
      SpellsLiteral [sign, lexeme] (numberValue false digits.toList)
  | negative {sign lexeme : Lexeme} {digits : String} : sign.token = .minus →
      lexeme.token = .number digits →
      SpellsLiteral [sign, lexeme] (numberValue true digits.toList)
  | text {lexeme : Lexeme} {content : String} : lexeme.token = .text content →
      SpellsLiteral [lexeme] (.text content)
  | blob {lexeme : Lexeme} {digits : String} : lexeme.token = .blob digits →
      SpellsLiteral [lexeme] (.blob (hexBytes digits.toList))
  | null {lexeme : Lexeme} : lexeme.Is .null → SpellsLiteral [lexeme] .null

/-- Literals with commas between them. -/
inductive SpellsLiterals : List Lexeme → List Value → Prop
  | last {lexemes : List Lexeme} {value : Value} : SpellsLiteral lexemes value →
      SpellsLiterals lexemes [value]
  | more {lexemes others : List Lexeme} {comma : Lexeme} {value : Value} {values : List Value} :
      SpellsLiteral lexemes value → comma.token = .comma → SpellsLiterals others values →
      SpellsLiterals (lexemes ++ comma :: others) (value :: values)

/-- A test may be negated by a word in front of its keyword. -/
inductive SpellsNot : List Lexeme → Bool → Prop
  | absent : SpellsNot [] false
  | present {lexeme : Lexeme} : lexeme.Is .not → SpellsNot [lexeme] true

/-- A test of one column. -/
inductive SpellsTest : List Lexeme → Condition ColumnName → Prop
  | compare {columns literal : List Lexeme} {sign : Lexeme} {column : ColumnName}
      {comparison : Comparison} {value : Value} :
      SpellsColumn columns column → sign.token = .comparison comparison →
      SpellsLiteral literal value →
      SpellsTest (columns ++ sign :: literal) (.compare column comparison value)
  | isNull {columns : List Lexeme} {is null : Lexeme} {column : ColumnName} :
      SpellsColumn columns column → is.Is .is → null.Is .null →
      SpellsTest (columns ++ [is, null]) (.isNull column)
  | isNotNull {columns : List Lexeme} {is not null : Lexeme} {column : ColumnName} :
      SpellsColumn columns column → is.Is .is → not.Is .not → null.Is .null →
      SpellsTest (columns ++ [is, not, null]) (.not (.isNull column))
  | like {columns nots literal : List Lexeme} {keyword : Lexeme} {column : ColumnName}
      {negated : Bool} {pattern : Value} :
      SpellsColumn columns column → SpellsNot nots negated → keyword.Is .like →
      SpellsLiteral literal pattern →
      SpellsTest (columns ++ (nots ++ [keyword]) ++ literal)
        ((Condition.like column pattern).negatedIf negated)
  | oneOf {columns nots literals : List Lexeme} {keyword opening closing : Lexeme}
      {column : ColumnName} {negated : Bool} {values : List Value} :
      SpellsColumn columns column → SpellsNot nots negated → keyword.Is .among →
      opening.token = .openParen → SpellsLiterals literals values →
      closing.token = .closeParen →
      SpellsTest (columns ++ (nots ++ [keyword]) ++ opening :: literals ++ [closing])
        ((Condition.oneOf column values).negatedIf negated)
  | noneOf {columns nots : List Lexeme} {keyword opening closing : Lexeme}
      {column : ColumnName} {negated : Bool} :
      SpellsColumn columns column → SpellsNot nots negated → keyword.Is .among →
      opening.token = .openParen → closing.token = .closeParen →
      SpellsTest (columns ++ (nots ++ [keyword]) ++ [opening, closing])
        ((Condition.oneOf column []).negatedIf negated)
  | between {columns nots lower upper : List Lexeme} {keyword and : Lexeme}
      {column : ColumnName} {negated : Bool} {low high : Value} :
      SpellsColumn columns column → SpellsNot nots negated → keyword.Is .between →
      SpellsLiteral lower low → and.Is .and → SpellsLiteral upper high →
      SpellsTest (columns ++ (nots ++ [keyword]) ++ lower ++ and :: upper)
        ((Condition.between column low high).negatedIf negated)

/-- The kinds of expressions by how tightly they bind.  An operand stands behind
any number of negations, of which two cancel each other. -/
inductive Rank where
  | operand (negated : Bool)
  | conjunction
  | disjunction

/-- An expression and the condition that it spells. -/
inductive Expression : Rank → List Lexeme → Condition ColumnName → Prop
  | test {lexemes : List Lexeme} {condition : Condition ColumnName} :
      SpellsTest lexemes condition → Expression (.operand false) lexemes condition
  | group {opening closing : Lexeme} {lexemes : List Lexeme} {condition : Condition ColumnName} :
      opening.token = .openParen → Expression .disjunction lexemes condition →
      closing.token = .closeParen →
      Expression (.operand false) (opening :: lexemes ++ [closing]) condition
  | not {sign : Lexeme} {lexemes : List Lexeme} {negated : Bool}
      {condition : Condition ColumnName} :
      sign.Is .not → Expression (.operand negated) lexemes condition →
      Expression (.operand !negated) (sign :: lexemes) condition
  | conjunct {lexemes : List Lexeme} {negated : Bool} {condition : Condition ColumnName} :
      Expression (.operand negated) lexemes condition →
      Expression .conjunction lexemes (condition.negatedIf negated)
  | and {left right : List Lexeme} {sign : Lexeme} {negated : Bool}
      {first second : Condition ColumnName} :
      Expression .conjunction left first → sign.Is .and →
      Expression (.operand negated) right second →
      Expression .conjunction (left ++ sign :: right) (.and first (second.negatedIf negated))
  | disjunct {lexemes : List Lexeme} {condition : Condition ColumnName} :
      Expression .conjunction lexemes condition → Expression .disjunction lexemes condition
  | or {left right : List Lexeme} {sign : Lexeme} {first second : Condition ColumnName} :
      Expression .disjunction left first → sign.Is .or → Expression .conjunction right second →
      Expression .disjunction (left ++ sign :: right) (.or first second)

/-! ## Words -/

/-- Keywords are words. -/
theorem Token.exists_word_of_keyword? {token : Token} {keyword : Keyword}
    (found : token.keyword? = some keyword) : ∃ text, token = .word text := by
  cases token with
  | word text => exact ⟨text, rfl⟩
  | _ => contradiction

/-- How a keyword is spelled in lower case. -/
def Keyword.spelling : Keyword → String
  | .select => "select"
  | .source => "from"
  | .filter => "where"
  | .group => "group"
  | .order => "order"
  | .terms => "by"
  | .limit => "limit"
  | .and => "and"
  | .or => "or"
  | .not => "not"
  | .is => "is"
  | .null => "null"
  | .like => "like"
  | .among => "in"
  | .between => "between"
  | .asc => "asc"
  | .desc => "desc"

theorem toLower_of_keyword? {word : String} {keyword : Keyword}
    (found : keyword? word = some keyword) : word.toLower = keyword.spelling := by
  rw [keyword?] at found
  split at found <;> cases found <;> assumption

/-- A keyword that is a reserved word names no column. -/
theorem Token.name?_eq_none_of_keyword? {token : Token} {keyword : Keyword}
    (found : token.keyword? = some keyword)
    (reserved : reservedWords.contains keyword.spelling = true) : token.name? = none := by
  obtain ⟨word, rfl⟩ := exists_word_of_keyword? found
  rw [Token.name?, toLower_of_keyword? found, if_pos reserved]

/-! ## Reading in context -/

namespace Pending

/-- Read lexemes one by one. -/
def read? (lexemes : List Lexeme) (pending : Pending) : Option Pending :=
  lexemes.foldlM step? pending

theorem read?_nil (pending : Pending) : pending.read? [] = some pending :=
  rfl

theorem read?_cons (lexeme : Lexeme) (lexemes : List Lexeme) (pending : Pending) :
    pending.read? (lexeme :: lexemes) = (pending.step? lexeme).bind (read? lexemes) :=
  rfl

theorem read?_append (left right : List Lexeme) (pending : Pending) :
    pending.read? (left ++ right) = (pending.read? left).bind (read? right) :=
  List.foldlM_append

/-- No lexeme of a condition is a mistake. -/
theorem ne_illegal_of_step? {pending next : Pending} {lexeme : Lexeme}
    (ok : pending.step? lexeme = some next) : lexeme.token ≠ .illegal := by
  obtain ⟨token, spelling, offset⟩ := lexeme
  rintro rfl
  obtain ⟨expected, level, outer⟩ := pending
  cases expected with
  | literal slot sign => cases sign <;> simp [step?, literal?, Token.keyword?] at ok
  | _ => simp [step?, connective?, Token.keyword?, Token.name?] at ok

/-- Every lexeme that is read is a step. -/
theorem exists_step?_of_read? {lexemes : List Lexeme} {pending next : Pending}
    (ok : pending.read? lexemes = some next) :
    ∀ lexeme ∈ lexemes, ∃ before after : Pending, before.step? lexeme = some after := by
  induction lexemes generalizing pending with
  | nil => simp
  | cons lexeme lexemes later =>
      rw [read?_cons] at ok
      obtain ⟨middle, first, rest⟩ := Option.bind_eq_some_iff.mp ok
      exact List.forall_mem_cons.mpr ⟨⟨pending, middle, first⟩, later rest⟩

theorem ne_illegal_of_read? {lexemes : List Lexeme} {pending next : Pending}
    (ok : pending.read? lexemes = some next) : ∀ lexeme ∈ lexemes, lexeme.token ≠ .illegal := by
  intro lexeme member
  obtain ⟨before, after, step⟩ := exists_step?_of_read? ok lexeme member
  exact ne_illegal_of_step? step

end Pending

/-- A column is read where an operand is expected, and its test is expected
next. -/
theorem SpellsColumn.read? {lexemes : List Lexeme} {column : ColumnName}
    (spells : SpellsColumn lexemes column) (level : Level) (outer : List Level) :
    Pending.read? lexemes ⟨.operand, level, outer⟩ = some ⟨.test column, level, outer⟩ := by
  have name {lexeme : Lexeme} {name : String} (named : lexeme.token.name? = some name) :
      Pending.step? ⟨.operand, level, outer⟩ lexeme =
        some ⟨.test ⟨none, name, lexeme.offset⟩, level, outer⟩ := by
    have notNot : lexeme.token.keyword? ≠ some .not := fun found => by
      rw [Token.name?_eq_none_of_keyword? found (by decide)] at named
      contradiction
    obtain ⟨token, spelling, offset⟩ := lexeme
    simp only [Pending.step?]
    split
    · contradiction
    · contradiction
    · rename_i found _
      cases named.symm.trans found
      rfl
    · rename_i absent
      exact absurd named (absent name)
  cases spells with
  | bare named => rw [Pending.read?_cons, name named]; rfl
  | qualified table dot named =>
      rw [Pending.read?_cons, name table, Option.bind_some, Pending.read?_cons]
      simp only [Pending.step?, dot, Pending.expect, Option.bind_some, Pending.read?_cons, named,
        Option.map_some, Pending.read?_nil]

/-- A literal is read where one is expected, and fills its place. -/
theorem SpellsLiteral.read? {lexemes : List Lexeme} {value : Value}
    (spells : SpellsLiteral lexemes value) (slot : Slot) (level : Level) (outer : List Level) :
    Pending.read? lexemes ⟨.literal slot none, level, outer⟩ =
      some (Pending.fill ⟨.literal slot none, level, outer⟩ slot value) := by
  have signed (sign : Option Bool) :
      Pending.fill ⟨.literal slot sign, level, outer⟩ slot value =
        Pending.fill ⟨.literal slot none, level, outer⟩ slot value := by
    cases slot <;> rfl
  cases spells with
  | number digits =>
      simp [Pending.read?_cons, Pending.read?_nil, Pending.step?, Pending.literal?, digits]
  | positive plus digits =>
      rw [← signed (some false)]
      simp [Pending.read?_cons, Pending.read?_nil, Pending.step?, Pending.literal?, plus, digits,
        Pending.expect]
  | negative minus digits =>
      rw [← signed (some true)]
      simp [Pending.read?_cons, Pending.read?_nil, Pending.step?, Pending.literal?, minus, digits,
        Pending.expect]
  | text content =>
      simp [Pending.read?_cons, Pending.read?_nil, Pending.step?, Pending.literal?, content]
  | blob digits =>
      simp [Pending.read?_cons, Pending.read?_nil, Pending.step?, Pending.literal?, digits]
  | null is =>
      obtain ⟨text, word⟩ := Token.exists_word_of_keyword? is
      rw [Lexeme.Is, word] at is
      simp [Pending.read?_cons, Pending.read?_nil, Pending.step?, Pending.literal?, word, is]

/-- The literals of a list are kept until it ends. -/
theorem SpellsLiterals.read? {lexemes : List Lexeme} {values : List Value}
    (spells : SpellsLiterals lexemes values) (column : ColumnName) (negated : Bool)
    (items : List Value) (level : Level) (outer : List Level) :
    Pending.read? lexemes ⟨.literal (.item column negated items) none, level, outer⟩ =
      some ⟨.listEnd column negated (values.reverse ++ items), level, outer⟩ := by
  induction spells generalizing items with
  | last literal => exact literal.read? _ level outer
  | @more lexemes others comma value values literal between _ later =>
      rw [Pending.read?_append, literal.read?, Option.bind_some, Pending.read?_cons]
      simp only [Pending.step?, Pending.fill, Pending.expect, between, Option.bind_some]
      rw [later, List.reverse_cons, List.append_assoc]
      rfl

/-- The keyword of a test that may be negated decides what comes next. -/
theorem SpellsNot.read? {nots : List Lexeme} {negated : Bool} (spells : SpellsNot nots negated)
    {lexeme : Lexeme} {keyword : Keyword} (is : lexeme.Is keyword) {column : ColumnName}
    {expected : Expected}
    (starts : ∀ pending : Pending,
      pending.startTest? column negated keyword = some (pending.expect expected))
    (level : Level) (outer : List Level) :
    Pending.read? (nots ++ [lexeme]) ⟨.test column, level, outer⟩ =
      some ⟨expected, level, outer⟩ := by
  obtain ⟨text, word⟩ := Token.exists_word_of_keyword? is
  rw [Lexeme.Is, word] at is
  cases spells with
  | absent =>
      have step : Pending.step? ⟨.test column, level, outer⟩ lexeme =
          Pending.startTest? ⟨.test column, level, outer⟩ column false keyword := by
        have known := starts ⟨.test column, level, outer⟩
        cases keyword <;> simp [Pending.startTest?] at known <;>
          simp [Pending.step?, word, is]
      rw [List.nil_append, Pending.read?_cons, step, starts]
      rfl
  | @present no isNot =>
      obtain ⟨noText, noWord⟩ := Token.exists_word_of_keyword? isNot
      rw [Lexeme.Is, noWord] at isNot
      have first : Pending.step? ⟨.test column, level, outer⟩ no =
          some ⟨.negatedTest column, level, outer⟩ := by
        simp [Pending.step?, noWord, isNot, Pending.expect]
      have second : Pending.step? ⟨.negatedTest column, level, outer⟩ lexeme =
          some ⟨expected, level, outer⟩ := by
        simp [Pending.step?, word, is, starts, Pending.expect]
      rw [List.singleton_append, Pending.read?_cons, first, Option.bind_some, Pending.read?_cons,
        second]
      rfl

theorem SpellsTest.read? {lexemes : List Lexeme} {condition : Condition ColumnName}
    (spells : SpellsTest lexemes condition) (level : Level) (outer : List Level) :
    Pending.read? lexemes ⟨.operand, level, outer⟩ =
      some ⟨.connective, level.take condition, outer⟩ := by
  cases spells with
  | compare column sign literal =>
      rw [Pending.read?_append, column.read?, Option.bind_some, Pending.read?_cons]
      simp only [Pending.step?, sign, Option.bind_some, Pending.expect, literal.read?]
      rfl
  | isNull column is null =>
      obtain ⟨isText, isWord⟩ := Token.exists_word_of_keyword? is
      obtain ⟨nullText, nullWord⟩ := Token.exists_word_of_keyword? null
      rw [Lexeme.Is, isWord] at is
      rw [Lexeme.Is, nullWord] at null
      rw [Pending.read?_append, column.read?, Option.bind_some]
      simp [Pending.read?_cons, Pending.read?_nil, Pending.step?, isWord, is, nullWord, null,
        Pending.expect, Pending.take]
  | isNotNull column is not null =>
      obtain ⟨isText, isWord⟩ := Token.exists_word_of_keyword? is
      obtain ⟨notText, notWord⟩ := Token.exists_word_of_keyword? not
      rw [Lexeme.Is, isWord] at is
      rw [Lexeme.Is, notWord] at not
      rw [Lexeme.Is] at null
      rw [Pending.read?_append, column.read?, Option.bind_some]
      simp [Pending.read?_cons, Pending.read?_nil, Pending.step?, isWord, is, notWord, not, null,
        Pending.expect, Pending.take]
  | like column nots keyword literal =>
      rw [Pending.read?_append, Pending.read?_append, column.read?, Option.bind_some,
        nots.read? keyword (fun _ => rfl), Option.bind_some, literal.read?]
      rfl
  | oneOf column nots keyword opening literals closing =>
      rw [Pending.read?_append, Pending.read?_append, Pending.read?_append, column.read?,
        Option.bind_some, nots.read? keyword (fun _ => rfl), Option.bind_some, Pending.read?_cons]
      simp only [Pending.step?, opening, if_true, Option.bind_some, Pending.expect, literals.read?,
        Pending.read?_cons, closing, List.append_nil, List.reverse_reverse]
      rfl
  | noneOf column nots keyword opening closing =>
      rw [Pending.read?_append, Pending.read?_append, column.read?, Option.bind_some,
        nots.read? keyword (fun _ => rfl), Option.bind_some, Pending.read?_cons]
      simp only [Pending.step?, opening, if_true, Option.bind_some, Pending.expect,
        Pending.read?_cons, Pending.literal?, closing]
      rfl
  | between column nots keyword lower and upper =>
      rw [Pending.read?_append, Pending.read?_append, Pending.read?_append, column.read?,
        Option.bind_some, nots.read? keyword (fun _ => rfl), Option.bind_some, lower.read?,
        Option.bind_some, Pending.read?_cons]
      rw [Lexeme.Is] at and
      simp only [Pending.fill, Pending.step?, and, if_true, Option.bind_some, Pending.expect,
        upper.read?]
      rfl

/-- How an expression is read: an operand is taken as the next one of the level at
hand, a conjunction starts the last part of a disjunction, and a disjunction is
all that a new level says.  The levels around it stay as they are. -/
def ReadAs (lexemes : List Lexeme) (condition : Condition ColumnName) : Rank → Prop
  | .operand negated => ∀ (level : Level) (outer : List Level),
      Pending.read? lexemes ⟨.operand, level, outer⟩ =
        some ⟨.connective,
          { level with negated := level.negated ^^ negated }.take condition, outer⟩
  | .conjunction => ∀ (disjunction : Option (Condition ColumnName)) (outer : List Level),
      Pending.read? lexemes ⟨.operand, ⟨disjunction, none, false⟩, outer⟩ =
        some ⟨.connective, ⟨disjunction, some condition, false⟩, outer⟩
  | .disjunction => ∀ outer : List Level, ∃ level : Level,
      Pending.read? lexemes ⟨.operand, .empty, outer⟩ = some ⟨.connective, level, outer⟩ ∧
        level.value? = some condition

/-- The keyword that joins two conjuncts asks for the next operand. -/
theorem Pending.step?_and {lexeme : Lexeme} (is : lexeme.Is .and) (level : Level)
    (outer : List Level) :
    Pending.step? ⟨.connective, level, outer⟩ lexeme = some ⟨.operand, level, outer⟩ := by
  rw [Lexeme.Is] at is
  simp [step?, connective?, is, expect]

/-- The keyword that joins two disjuncts closes the first one. -/
theorem Pending.step?_or {lexeme : Lexeme} (is : lexeme.Is .or) (level : Level)
    (outer : List Level) :
    Pending.step? ⟨.connective, level, outer⟩ lexeme =
      some ⟨.operand, level.disjoin, outer⟩ := by
  rw [Lexeme.Is] at is
  simp [step?, connective?, is]

/-- Every expression is read as what it spells, whatever stands around it. -/
theorem Expression.readAs {rank : Rank} {lexemes : List Lexeme}
    {condition : Condition ColumnName} (expression : Expression rank lexemes condition) :
    ReadAs lexemes condition rank := by
  induction expression with
  | test spells =>
      intro level outer
      rw [spells.read?, Bool.xor_false]
  | @group opening closing lexemes condition opens _ closes inner =>
      intro level outer
      obtain ⟨inside, read, value⟩ := inner (level :: outer)
      have first : Pending.step? ⟨.operand, level, outer⟩ opening =
          some ⟨.operand, .empty, level :: outer⟩ := by
        simp [Pending.step?, opens]
      have last : Pending.step? ⟨.connective, inside, level :: outer⟩ closing =
          some ⟨.connective, level.take condition, outer⟩ := by
        simp [Pending.step?, Pending.connective?, closes, value, Token.keyword?, Pending.take]
      rw [Pending.read?_append, Pending.read?_cons, first, Option.bind_some, read, Option.bind_some,
        Pending.read?_cons, last, Bool.xor_false]
      rfl
  | @not sign lexemes negated condition is _ inner =>
      intro level outer
      obtain ⟨text, word⟩ := Token.exists_word_of_keyword? is
      rw [Lexeme.Is, word] at is
      have first : Pending.step? ⟨.operand, level, outer⟩ sign =
          some ⟨.operand, { level with negated := !level.negated }, outer⟩ := by
        simp [Pending.step?, word, is]
      rw [Pending.read?_cons, first, Option.bind_some, inner, Bool.not_xor, ← Bool.xor_not]
  | @conjunct lexemes negated condition _ inner =>
      intro disjunction outer
      rw [inner, Bool.false_xor]
      rfl
  | @and left right sign negated first second _ is _ inner next =>
      intro disjunction outer
      rw [Pending.read?_append, inner, Option.bind_some, Pending.read?_cons,
        Pending.step?_and is, Option.bind_some, next, Bool.false_xor]
      rfl
  | @disjunct lexemes condition _ inner =>
      intro outer
      exact ⟨_, inner none outer, rfl⟩
  | @or left right sign first second _ is _ inner next =>
      intro outer
      obtain ⟨level, read, value⟩ := inner outer
      refine ⟨⟨some first, some second, false⟩, ?_, rfl⟩
      rw [Pending.read?_append, read, Option.bind_some, Pending.read?_cons,
        Pending.step?_or is, Option.bind_some, Level.disjoin, value, next]

/-- A whole expression is read to its end, and what it spells is the condition. -/
theorem Expression.exists_read? {lexemes : List Lexeme} {condition : Condition ColumnName}
    (expression : Expression .disjunction lexemes condition) :
    ∃ pending, Pending.read? lexemes .start = some pending ∧
      pending.finish? = some condition := by
  obtain ⟨level, read, value⟩ := expression.readAs []
  exact ⟨⟨.connective, level, []⟩, read, value⟩

/-- An expression spells one condition only. -/
theorem Expression.unique {lexemes : List Lexeme} {condition other : Condition ColumnName}
    (expression : Expression .disjunction lexemes condition)
    (another : Expression .disjunction lexemes other) : condition = other := by
  obtain ⟨pending, read, finish⟩ := expression.exists_read?
  obtain ⟨same, readSame, finishSame⟩ := another.exists_read?
  cases read.symm.trans readSame
  exact Option.some.inj (finish.symm.trans finishSame)

theorem Expression.ne_illegal {lexemes : List Lexeme} {condition : Condition ColumnName}
    (expression : Expression .disjunction lexemes condition) :
    ∀ lexeme ∈ lexemes, lexeme.token ≠ .illegal := by
  obtain ⟨pending, read, -⟩ := expression.exists_read?
  exact Pending.ne_illegal_of_read? read

/-! ## Moving along -/

/-- The same column name further along in a text. -/
def ColumnName.moved (distance : Nat) (column : ColumnName) : ColumnName :=
  { column with offset := distance + column.offset }

/-- A column name wherever it stands. -/
def ColumnName.unplaced (column : ColumnName) : ColumnName :=
  { column with offset := 0 }

namespace Condition

variable {κ μ ν ε : Type}

/-- The same condition on other columns. -/
def map (change : κ → μ) : Condition κ → Condition μ
  | .compare column comparison value => .compare (change column) comparison value
  | .isNull column => .isNull (change column)
  | .like column pattern => .like (change column) pattern
  | .oneOf column values => .oneOf (change column) values
  | .between column low high => .between (change column) low high
  | .not condition => .not (map change condition)
  | .and left right => .and (map change left) (map change right)
  | .or left right => .or (map change left) (map change right)

theorem map_negatedIf (change : κ → μ) (negated : Bool) (condition : Condition κ) :
    (condition.negatedIf negated).map change = (condition.map change).negatedIf negated := by
  cases negated <;> rfl

theorem map_map (first : κ → μ) (second : μ → ν) (condition : Condition κ) :
    (condition.map first).map second = condition.map (second ∘ first) := by
  induction condition with
  | not condition inner => rw [map, map, map, inner]
  | and left right one other => rw [map, map, map, one, other]
  | or left right one other => rw [map, map, map, one, other]
  | _ => rfl

/-- Where a condition stands does not show in it without the places of its columns. -/
theorem map_unplaced_moved (distance : Nat) (condition : Condition ColumnName) :
    (condition.map (ColumnName.moved distance)).map ColumnName.unplaced =
      condition.map ColumnName.unplaced :=
  condition.map_map _ _

/-- Two parts that resolve alike are joined alike. -/
theorem join_congr {join : Condition ν → Condition ν → Condition ν}
    {left right leftOther rightOther : Except ε (Condition ν)} {joined : Condition ν}
    (first : ∀ value, left = .ok value → leftOther = .ok value)
    (second : ∀ value, right = .ok value → rightOther = .ok value)
    (ok : (do let left ← left; let right ← right; pure (join left right)) = .ok joined) :
    (do let left ← leftOther; let right ← rightOther; pure (join left right)) = .ok joined := by
  cases left with
  | error failure => contradiction
  | ok value =>
      cases right with
      | error failure => contradiction
      | ok other =>
          rw [first value rfl, second other rfl]
          exact ok

/-- Columns that resolve alike give conditions that resolve alike. -/
theorem resolve_of_imp {find other : κ → Except ε ν}
    (same : ∀ column found, find column = .ok found → other column = .ok found)
    {condition : Condition κ} {resolved : Condition ν}
    (ok : condition.resolve find = .ok resolved) : condition.resolve other = .ok resolved := by
  have column {column : κ} {make : ν → Condition ν} {made : Condition ν}
      (ok : (find column).map make = .ok made) : (other column).map make = .ok made := by
    cases found : find column with
    | error failure =>
        rw [found] at ok
        contradiction
    | ok value => rwa [same column value found, ← found]
  induction condition generalizing resolved with
  | not condition inner =>
      simp only [resolve] at ok
      cases part : condition.resolve find with
      | error failure =>
          rw [part] at ok
          contradiction
      | ok value =>
          rw [part] at ok
          rw [resolve, inner part]
          exact ok
  | and left right first second => exact join_congr (fun _ => first) (fun _ => second) ok
  | or left right first second => exact join_congr (fun _ => first) (fun _ => second) ok
  | _ => exact column ok

end Condition

section Moving

variable {lexemes : List Lexeme}

theorem SpellsColumn.moved {column : ColumnName} (spells : SpellsColumn lexemes column)
    (distance : Nat) :
    SpellsColumn (lexemes.map (Lexeme.moved distance)) (column.moved distance) := by
  cases spells with
  | bare named => exact .bare named
  | @qualified table dot lexeme qualifier name tableNamed dotted named =>
      exact @SpellsColumn.qualified (table.moved distance) (dot.moved distance)
        (lexeme.moved distance) qualifier name tableNamed dotted named

theorem SpellsLiteral.moved {value : Value} (spells : SpellsLiteral lexemes value)
    (distance : Nat) : SpellsLiteral (lexemes.map (Lexeme.moved distance)) value := by
  cases spells with
  | number digits => exact .number digits
  | positive plus digits => exact .positive plus digits
  | negative minus digits => exact .negative minus digits
  | text content => exact .text content
  | blob digits => exact .blob digits
  | null is => exact .null is

theorem SpellsLiterals.moved {values : List Value} (spells : SpellsLiterals lexemes values)
    (distance : Nat) : SpellsLiterals (lexemes.map (Lexeme.moved distance)) values := by
  induction spells with
  | last literal => exact .last (literal.moved distance)
  | more literal comma _ later =>
      rw [List.map_append, List.map_cons]
      exact .more (literal.moved distance) comma later

theorem SpellsNot.moved {negated : Bool} (spells : SpellsNot lexemes negated) (distance : Nat) :
    SpellsNot (lexemes.map (Lexeme.moved distance)) negated := by
  cases spells with
  | absent => exact .absent
  | present is => exact .present is

theorem SpellsTest.moved {condition : Condition ColumnName}
    (spells : SpellsTest lexemes condition) (distance : Nat) :
    SpellsTest (lexemes.map (Lexeme.moved distance))
      (condition.map (ColumnName.moved distance)) := by
  cases spells with
  | compare column sign literal =>
      rw [List.map_append, List.map_cons]
      exact .compare (column.moved distance) sign (literal.moved distance)
  | isNull column is null =>
      rw [List.map_append]
      exact .isNull (column.moved distance) is null
  | isNotNull column is not null =>
      rw [List.map_append]
      exact .isNotNull (column.moved distance) is not null
  | like column nots keyword literal =>
      rw [Condition.map_negatedIf]
      simp only [List.map_append, List.map_cons, List.map_nil]
      exact .like (column.moved distance) (nots.moved distance) keyword (literal.moved distance)
  | oneOf column nots keyword opening literals closing =>
      rw [Condition.map_negatedIf]
      simp only [List.map_append, List.map_cons, List.map_nil]
      exact .oneOf (column.moved distance) (nots.moved distance) keyword opening
        (literals.moved distance) closing
  | noneOf column nots keyword opening closing =>
      rw [Condition.map_negatedIf]
      simp only [List.map_append, List.map_cons, List.map_nil]
      exact .noneOf (column.moved distance) (nots.moved distance) keyword opening closing
  | between column nots keyword lower and upper =>
      rw [Condition.map_negatedIf]
      simp only [List.map_append, List.map_cons, List.map_nil]
      exact .between (column.moved distance) (nots.moved distance) keyword
        (lower.moved distance) and (upper.moved distance)

/-- An expression stays one when it is moved along, and only the places of its
columns change. -/
theorem Expression.moved {rank : Rank} {condition : Condition ColumnName}
    (expression : Expression rank lexemes condition) (distance : Nat) :
    Expression rank (lexemes.map (Lexeme.moved distance))
      (condition.map (ColumnName.moved distance)) := by
  induction expression with
  | test spells => exact .test (spells.moved distance)
  | group opening _ closing inner =>
      rw [List.map_append, List.map_cons]
      exact .group opening inner closing
  | not sign _ inner => exact .not sign inner
  | conjunct _ inner =>
      rw [Condition.map_negatedIf]
      exact .conjunct inner
  | and _ sign _ first second =>
      rw [List.map_append, List.map_cons, Condition.map, Condition.map_negatedIf]
      exact .and first sign second
  | disjunct _ inner => exact .disjunct inner
  | or _ sign _ first second =>
      rw [List.map_append, List.map_cons]
      exact .or first sign second

end Moving

end CardShell.Sql
