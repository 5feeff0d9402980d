import CardShell.Proofs.Sql.Expression

/-!
# What the reader accepts

The reader of conditions accepts expressions and nothing else, and the condition that
it takes an expression for is the one that the grammar gives.  The invariant behind
this says what the lexemes read so far are: those of the levels around, of what the
innermost level has joined, and of the test that has been begun.
-/

namespace CardShell.Sql

/-! ## Tests that have been begun -/

/-- A literal may be begun by a sign. -/
inductive SpellsSign : List Lexeme → Option Bool → Prop
  | absent : SpellsSign [] none
  | positive {sign : Lexeme} : sign.token = .plus → SpellsSign [sign] (some false)
  | negative {sign : Lexeme} : sign.token = .minus → SpellsSign [sign] (some true)

/-- The lexemes of a test in front of one of its literals. -/
inductive Slot.Begun : Slot → List Lexeme → Prop
  | compared {columns : List Lexeme} {sign : Lexeme} {column : ColumnName}
      {comparison : Comparison} :
      SpellsColumn columns column → sign.token = .comparison comparison →
      Begun (.compared column comparison) (columns ++ [sign])
  | pattern {columns nots : List Lexeme} {keyword : Lexeme} {column : ColumnName}
      {negated : Bool} :
      SpellsColumn columns column → SpellsNot nots negated → keyword.Is .like →
      Begun (.pattern column negated) (columns ++ (nots ++ [keyword]))
  | firstItem {columns nots : List Lexeme} {keyword opening : Lexeme} {column : ColumnName}
      {negated : Bool} :
      SpellsColumn columns column → SpellsNot nots negated → keyword.Is .among →
      opening.token = .openParen →
      Begun (.item column negated []) (columns ++ (nots ++ [keyword]) ++ [opening])
  | nextItem {columns nots literals : List Lexeme} {keyword opening comma : Lexeme}
      {column : ColumnName} {negated : Bool} {items : List Value} :
      SpellsColumn columns column → SpellsNot nots negated → keyword.Is .among →
      opening.token = .openParen → SpellsLiterals literals items.reverse →
      comma.token = .comma →
      Begun (.item column negated items)
        (columns ++ (nots ++ [keyword]) ++ opening :: (literals ++ [comma]))
  | low {columns nots : List Lexeme} {keyword : Lexeme} {column : ColumnName} {negated : Bool} :
      SpellsColumn columns column → SpellsNot nots negated → keyword.Is .between →
      Begun (.low column negated) (columns ++ (nots ++ [keyword]))
  | high {columns nots lower : List Lexeme} {keyword and : Lexeme} {column : ColumnName}
      {negated : Bool} {low : Value} :
      SpellsColumn columns column → SpellsNot nots negated → keyword.Is .between →
      SpellsLiteral lower low → and.Is .and →
      Begun (.high column negated low) (columns ++ (nots ++ [keyword]) ++ lower ++ [and])

/-- The lexemes of a test that is not complete, from what may come next in it. -/
inductive Expected.Begun : Expected → List Lexeme → Prop
  | operand : Begun .operand []
  | test {columns : List Lexeme} {column : ColumnName} :
      SpellsColumn columns column → Begun (.test column) columns
  | qualified {table dot : Lexeme} {qualifier : String} :
      table.token.name? = some qualifier → dot.token = .dot →
      Begun (.qualified qualifier table.offset) [table, dot]
  | nullTest {columns : List Lexeme} {is : Lexeme} {column : ColumnName} :
      SpellsColumn columns column → is.Is .is → Begun (.nullTest column) (columns ++ [is])
  | notNull {columns : List Lexeme} {is not : Lexeme} {column : ColumnName} :
      SpellsColumn columns column → is.Is .is → not.Is .not →
      Begun (.notNull column) (columns ++ [is, not])
  | negatedTest {columns : List Lexeme} {not : Lexeme} {column : ColumnName} :
      SpellsColumn columns column → not.Is .not → Begun (.negatedTest column) (columns ++ [not])
  | listStart {columns nots : List Lexeme} {keyword : Lexeme} {column : ColumnName}
      {negated : Bool} :
      SpellsColumn columns column → SpellsNot nots negated → keyword.Is .among →
      Begun (.listStart column negated) (columns ++ (nots ++ [keyword]))
  | literal {slot : Slot} {before signs : List Lexeme} {sign : Option Bool} :
      slot.Begun before → SpellsSign signs sign →
      Begun (.literal slot sign) (before ++ signs)
  | listEnd {columns nots literals : List Lexeme} {keyword opening : Lexeme}
      {column : ColumnName} {negated : Bool} {items : List Value} :
      SpellsColumn columns column → SpellsNot nots negated → keyword.Is .among →
      opening.token = .openParen → SpellsLiterals literals items.reverse →
      Begun (.listEnd column negated items)
        (columns ++ (nots ++ [keyword]) ++ opening :: literals)
  | rangeAnd {columns nots lower : List Lexeme} {keyword : Lexeme} {column : ColumnName}
      {negated : Bool} {low : Value} :
      SpellsColumn columns column → SpellsNot nots negated → keyword.Is .between →
      SpellsLiteral lower low →
      Begun (.rangeAnd column negated low) (columns ++ (nots ++ [keyword]) ++ lower)

/-- A state of the reader in which the level and those around it are as they were
before the lexemes of a test, which is complete or may go on. -/
inductive Advanced (level : Level) (outer : List Level) : Pending → List Lexeme → Prop
  | begun {expected : Expected} {test : List Lexeme} :
      expected.Begun test → Advanced level outer ⟨expected, level, outer⟩ test
  | complete {test : List Lexeme} {condition : Condition ColumnName} :
      SpellsTest test condition →
      Advanced level outer ⟨.connective, level.take condition, outer⟩ test

section Tests

variable {level : Level} {outer : List Level}

/-- Another literal at the end of a list. -/
theorem SpellsLiterals.snoc {literals literal : List Lexeme} {values : List Value} {value : Value}
    {comma : Lexeme} (spells : SpellsLiterals literals values) (between : comma.token = .comma)
    (next : SpellsLiteral literal value) :
    SpellsLiterals (literals ++ comma :: literal) (values ++ [value]) := by
  induction spells with
  | last first => exact .more first between (.last next)
  | more first sign _ later =>
      rw [List.append_assoc, List.cons_append, List.cons_append]
      exact .more first sign later

/-- With its literal a test is complete or goes on behind it. -/
theorem Slot.Begun.fill {slot : Slot} {before literal : List Lexeme} {value : Value}
    (begun : slot.Begun before) (spells : SpellsLiteral literal value) (sign : Option Bool) :
    Advanced level outer (Pending.fill ⟨.literal slot sign, level, outer⟩ slot value)
      (before ++ literal) := by
  cases begun with
  | compared column comparison =>
      exact .complete (by simpa using SpellsTest.compare column comparison spells)
  | pattern column nots keyword =>
      exact .complete (by simpa using SpellsTest.like column nots keyword spells)
  | firstItem column nots keyword opening =>
      have items : SpellsLiterals literal [value].reverse := .last spells
      exact .begun (by simpa using Expected.Begun.listEnd column nots keyword opening items)
  | nextItem column nots keyword opening literals comma =>
      have items := literals.snoc comma spells
      rw [← List.reverse_cons] at items
      exact .begun (by simpa using Expected.Begun.listEnd column nots keyword opening items)
  | low column nots keyword => exact .begun (.rangeAnd column nots keyword spells)
  | high column nots keyword lower and =>
      exact .complete (by simpa using SpellsTest.between column nots keyword lower and spells)

/-- The keyword of a test that can be negated begins it. -/
theorem Advanced.of_startTest? {columns nots : List Lexeme} {lexeme : Lexeme}
    {column : ColumnName} {negated : Bool} {keyword : Keyword} {expected : Expected}
    {next : Pending} (spells : SpellsColumn columns column) (negation : SpellsNot nots negated)
    (is : lexeme.Is keyword)
    (ok : Pending.startTest? ⟨expected, level, outer⟩ column negated keyword = some next) :
    Advanced level outer next (columns ++ (nots ++ [lexeme])) := by
  cases keyword <;> simp only [Pending.startTest?, Option.some.injEq, reduceCtorEq] at ok
  case like =>
    subst ok
    exact .begun (by simpa using Expected.Begun.literal (.pattern spells negation is) .absent)
  case among =>
    subst ok
    exact .begun (.listStart spells negation is)
  case between =>
    subst ok
    exact .begun (by simpa using Expected.Begun.literal (.low spells negation is) .absent)

/-- A number may have a sign. -/
theorem SpellsSign.number {signs : List Lexeme} {sign : Option Bool} {lexeme : Lexeme}
    {digits : String} (signed : SpellsSign signs sign) (number : lexeme.token = .number digits) :
    SpellsLiteral (signs ++ [lexeme]) (numberValue (sign.getD false) digits.toList) := by
  cases signed with
  | absent => exact .number number
  | positive plus => exact .positive plus number
  | negative minus => exact .negative minus number

/-- A list without items ends at once. -/
theorem Slot.Begun.close {column : ColumnName} {negated : Bool} {before : List Lexeme}
    {lexeme : Lexeme} (begun : Slot.Begun (.item column negated []) before)
    (closing : lexeme.token = .closeParen) :
    SpellsTest (before ++ [lexeme]) ((Condition.oneOf column []).negatedIf negated) := by
  -- The index of the hypothesis has to be a variable for the cases to be split.
  generalize items : ([] : List Value) = values at begun
  cases begun with
  | firstItem spells negation is opening =>
      simpa using SpellsTest.noneOf spells negation is opening closing
  | nextItem _ _ _ _ listed _ =>
      rw [← items] at listed
      cases listed

/-- Where a literal is expected, it is begun by its sign or given, or its list
ends. -/
theorem Slot.Begun.literal? {slot : Slot} {before signs : List Lexeme} {sign : Option Bool}
    {lexeme : Lexeme} {next : Pending} (begun : slot.Begun before) (signed : SpellsSign signs sign)
    (ok : Pending.literal? ⟨.literal slot sign, level, outer⟩ slot sign lexeme.token = some next) :
    Advanced level outer next (before ++ signs ++ [lexeme]) := by
  rw [List.append_assoc]
  simp only [Pending.literal?] at ok
  split at ok
  · rename_i number
    cases ok
    exact begun.fill (signed.number number) _
  · rename_i minus
    cases ok
    cases signed
    exact .begun (.literal begun (.negative minus))
  · rename_i plus
    cases ok
    cases signed
    exact .begun (.literal begun (.positive plus))
  · rename_i content
    cases ok
    cases signed
    exact begun.fill (.text content) _
  · rename_i digits
    cases ok
    cases signed
    exact begun.fill (.blob digits) _
  · rename_i closing
    cases signed
    split at ok
    · cases ok
      exact .complete (begun.close closing)
    · contradiction
  · cases signed
    split at ok
    · rename_i null
      cases ok
      exact begun.fill (.null null) _
    · contradiction
  · contradiction

/-- Every lexeme that is read after the column of a test has been begun carries on
with the test. -/
theorem Expected.Begun.step? {expected : Expected} {test : List Lexeme} {lexeme : Lexeme}
    {next : Pending} (begun : expected.Begun test) (started : expected ≠ .operand)
    (ok : Pending.step? ⟨expected, level, outer⟩ lexeme = some next) :
    Advanced level outer next (test ++ [lexeme]) := by
  cases begun with
  | operand => contradiction
  | @test columns column spells =>
      simp only [Pending.step?] at ok
      split at ok
      · rename_i dotted bare
        cases ok
        cases spells with
        | bare named => exact .begun (.qualified named dotted)
        | qualified _ _ _ => contradiction
      · cases ok
        rename_i sign
        exact .begun (by simpa using Expected.Begun.literal (.compared spells sign) .absent)
      · cases ok
        rename_i is _ _
        exact .begun (.nullTest spells is)
      · cases ok
        rename_i not _ _
        exact .begun (.negatedTest spells not)
      · rename_i is _ _
        exact .of_startTest? spells .absent is ok
      · contradiction
  | @qualified table dot qualifier named dotted =>
      simp only [Pending.step?] at ok
      obtain ⟨name, found, rfl⟩ := Option.map_eq_some_iff.mp ok
      exact .begun (.test (.qualified named dotted found))
  | @nullTest columns is column spells isWord =>
      simp only [Pending.step?] at ok
      split at ok
      · rename_i null
        cases ok
        exact .complete (by simpa using SpellsTest.isNull spells isWord null)
      · rename_i not
        cases ok
        exact .begun (by simpa using Expected.Begun.notNull spells isWord not)
      · contradiction
  | @notNull columns is not column spells isWord notWord =>
      simp only [Pending.step?] at ok
      split at ok
      · rename_i null
        cases ok
        exact .complete (by simpa using SpellsTest.isNotNull spells isWord notWord null)
      · contradiction
  | @negatedTest columns not column spells notWord =>
      simp only [Pending.step?] at ok
      obtain ⟨keyword, is, starts⟩ := Option.bind_eq_some_iff.mp ok
      have negated : SpellsNot [not] true := .present notWord
      simpa using Advanced.of_startTest? spells negated is starts
  | @listStart columns nots keyword column negated spells negation is =>
      simp only [Pending.step?] at ok
      split at ok
      · rename_i opening
        cases ok
        exact .begun
          (by simpa using Expected.Begun.literal (.firstItem spells negation is opening) .absent)
      · contradiction
  | literal slotBegun signed => exact slotBegun.literal? signed ok
  | @listEnd columns nots literals keyword opening column negated items spells negation is opens
      listed =>
      simp only [Pending.step?] at ok
      split at ok
      · rename_i comma
        cases ok
        exact .begun (by
          simpa using Expected.Begun.literal
            (.nextItem spells negation is opens listed comma) .absent)
      · rename_i closing
        cases ok
        exact .complete (by simpa using SpellsTest.oneOf spells negation is opens listed closing)
      · contradiction
  | @rangeAnd columns nots lower keyword column negated low spells negation is literal =>
      simp only [Pending.step?] at ok
      split at ok
      · rename_i and
        cases ok
        exact .begun (by
          simpa using Expected.Begun.literal (.high spells negation is literal and) .absent)
      · contradiction

end Tests

/-! ## Levels -/

/-- What a keyword has joined so far, with the keyword at its end. -/
inductive Joined (rank : Rank) (keyword : Keyword) :
    Option (Condition ColumnName) → List Lexeme → Prop
  | nothing : Joined rank keyword none []
  | joined {lexemes : List Lexeme} {sign : Lexeme} {condition : Condition ColumnName} :
      Expression rank lexemes condition → sign.Is keyword →
      Joined rank keyword (some condition) (lexemes ++ [sign])

/-- Negations one after the other, and whether they negate. -/
inductive SpellsNots : List Lexeme → Bool → Prop
  | nothing : SpellsNots [] false
  | not {nots : List Lexeme} {sign : Lexeme} {negated : Bool} :
      SpellsNots nots negated → sign.Is .not → SpellsNots (nots ++ [sign]) !negated

/-- The lexemes of a level where an operand is expected. -/
inductive Level.Open : Level → List Lexeme → Prop
  | parts {disjunction conjunction : Option (Condition ColumnName)} {negated : Bool}
      {ors ands nots : List Lexeme} :
      Joined .disjunction .or disjunction ors → Joined .conjunction .and conjunction ands →
      SpellsNots nots negated → Open ⟨disjunction, conjunction, negated⟩ (ors ++ (ands ++ nots))

/-- The lexemes of a level behind an operand. -/
inductive Level.Closed : Level → List Lexeme → Prop
  | parts {disjunction : Option (Condition ColumnName)} {ors ands : List Lexeme}
      {condition : Condition ColumnName} :
      Joined .disjunction .or disjunction ors → Expression .conjunction ands condition →
      Closed ⟨disjunction, some condition, false⟩ (ors ++ ands)

theorem SpellsNots.operand {nots lexemes : List Lexeme} {negated other : Bool}
    {condition : Condition ColumnName} (negations : SpellsNots nots negated)
    (operand : Expression (.operand other) lexemes condition) :
    Expression (.operand (negated ^^ other)) (nots ++ lexemes) condition := by
  induction negations generalizing lexemes other with
  | nothing => simpa using operand
  | @not nots sign negated _ is later =>
      rw [List.append_assoc, Bool.not_xor, ← Bool.xor_not]
      exact later (.not is operand)

/-- An operand is taken where one is expected. -/
theorem Level.Open.take {level : Level} {before lexemes : List Lexeme}
    {condition : Condition ColumnName} (opened : level.Open before)
    (operand : Expression (.operand false) lexemes condition) :
    (level.take condition).Closed (before ++ lexemes) := by
  cases opened with
  | @parts disjunction conjunction negated ors ands nots disjuncts conjuncts negations =>
      have negatedOperand := negations.operand operand
      rw [Bool.xor_false] at negatedOperand
      rw [List.append_assoc, List.append_assoc]
      cases conjuncts with
      | nothing => exact .parts disjuncts negatedOperand.conjunct
      | joined left sign =>
          rw [List.append_assoc]
          exact .parts disjuncts (left.and sign negatedOperand)

/-- Behind an operand a level says something. -/
theorem Level.Closed.exists_value? {level : Level} {lexemes : List Lexeme}
    (closed : level.Closed lexemes) :
    ∃ condition, level.value? = some condition ∧ Expression .disjunction lexemes condition := by
  cases closed with
  | parts disjuncts conjunction =>
      cases disjuncts with
      | nothing => exact ⟨_, rfl, conjunction.disjunct⟩
      | joined left sign =>
          rw [List.append_assoc]
          exact ⟨_, rfl, left.or sign conjunction⟩

/-- Another conjunct is expected behind `and`. -/
theorem Level.Closed.and {level : Level} {lexemes : List Lexeme} {sign : Lexeme}
    (closed : level.Closed lexemes) (is : sign.Is .and) : level.Open (lexemes ++ [sign]) := by
  cases closed with
  | parts disjuncts conjunction =>
      simpa using Level.Open.parts disjuncts (.joined conjunction is) .nothing

/-- Another disjunct is expected behind `or`. -/
theorem Level.Closed.or {level : Level} {lexemes : List Lexeme} {sign : Lexeme}
    (closed : level.Closed lexemes) (is : sign.Is .or) :
    level.disjoin.Open (lexemes ++ [sign]) := by
  obtain ⟨condition, value, expression⟩ := closed.exists_value?
  rw [Level.disjoin, value]
  simpa using Level.Open.parts (.joined expression is) .nothing .nothing

theorem Level.Open.not {level : Level} {lexemes : List Lexeme} {sign : Lexeme}
    (opened : level.Open lexemes) (is : sign.Is .not) :
    Level.Open { level with negated := !level.negated } (lexemes ++ [sign]) := by
  cases opened with
  | parts disjuncts conjuncts negations =>
      simpa using Level.Open.parts disjuncts conjuncts (negations.not is)

theorem Level.open_empty : Level.empty.Open [] :=
  .parts .nothing .nothing .nothing

/-! ## States of the reader -/

/-- The lexemes of the levels around a parenthesis. -/
inductive Enclosed : List Level → List Lexeme → Prop
  | outermost : Enclosed [] []
  | inside {level : Level} {outer : List Level} {around before : List Lexeme} {opening : Lexeme} :
      Enclosed outer around → level.Open before → opening.token = .openParen →
      Enclosed (level :: outer) (around ++ (before ++ [opening]))

/-- The lexemes that lead to a state of the reader. -/
inductive Pending.After : Pending → List Lexeme → Prop
  | begun {expected : Expected} {level : Level} {outer : List Level}
      {around before test : List Lexeme} :
      Enclosed outer around → level.Open before → expected.Begun test →
      After ⟨expected, level, outer⟩ (around ++ (before ++ test))
  | complete {level : Level} {outer : List Level} {around operands : List Lexeme} :
      Enclosed outer around → level.Closed operands →
      After ⟨.connective, level, outer⟩ (around ++ operands)

theorem Advanced.after {level : Level} {outer : List Level} {around before test : List Lexeme}
    {next : Pending} (advanced : Advanced level outer next test) (enclosed : Enclosed outer around)
    (opened : level.Open before) : next.After (around ++ (before ++ test)) := by
  cases advanced with
  | begun begun => exact .begun enclosed opened begun
  | complete test => exact .complete enclosed (opened.take (.test test))

/-- An operand is begun by its column, a parenthesis or a negation. -/
theorem Pending.After.step?_operand {level : Level} {outer : List Level}
    {around before : List Lexeme} {lexeme : Lexeme} {next : Pending}
    (enclosed : Enclosed outer around) (opened : level.Open before)
    (ok : Pending.step? ⟨.operand, level, outer⟩ lexeme = some next) :
    next.After (around ++ (before ++ [lexeme])) := by
  simp only [Pending.step?] at ok
  split at ok
  · rename_i opening
    cases ok
    simpa using After.begun (.inside enclosed opened opening) Level.open_empty .operand
  · rename_i not _
    cases ok
    simpa using After.begun enclosed (opened.not not) .operand
  · rename_i named _ _
    cases ok
    exact .begun enclosed opened (.test (.bare named))
  · contradiction

/-- Behind an operand another one is asked for or a parenthesis closed. -/
theorem Pending.After.connective? {level : Level} {outer : List Level}
    {around operands : List Lexeme} {lexeme : Lexeme} {next : Pending}
    (enclosed : Enclosed outer around) (closed : level.Closed operands)
    (ok : Pending.connective? ⟨.connective, level, outer⟩ lexeme.token = some next) :
    next.After (around ++ (operands ++ [lexeme])) := by
  simp only [Pending.connective?] at ok
  split at ok
  · rename_i and
    cases ok
    simpa [expect] using After.begun enclosed (closed.and and) .operand
  · rename_i or
    cases ok
    simpa using After.begun enclosed (closed.or or) .operand
  · rename_i closing _ _
    obtain ⟨condition, value, expression⟩ := closed.exists_value?
    cases enclosed with
    | outermost => simp at ok
    | inside enclosed opened opening =>
        rw [value] at ok
        cases ok
        simpa [take] using
          After.complete enclosed (opened.take (.group opening expression closing))
  · contradiction

/-- Every lexeme that is read leads on. -/
theorem Pending.After.step? {pending next : Pending} {lexemes : List Lexeme} {lexeme : Lexeme}
    (after : pending.After lexemes) (ok : pending.step? lexeme = some next) :
    next.After (lexemes ++ [lexeme]) := by
  cases after with
  | @begun expected level outer around before test enclosed opened begun =>
      rw [List.append_assoc, List.append_assoc]
      -- Only where an operand is expected can the level change before it takes one.
      by_cases operand : expected = .operand
      · subst operand
        cases begun
        exact step?_operand enclosed opened ok
      · exact (begun.step? operand ok).after enclosed opened
  | complete enclosed closed =>
      rw [List.append_assoc]
      exact connective? enclosed closed ok

theorem Pending.After.read? {pending next : Pending} {before lexemes : List Lexeme}
    (after : pending.After before) (ok : pending.read? lexemes = some next) :
    next.After (before ++ lexemes) := by
  induction lexemes generalizing pending before with
  | nil =>
      cases ok
      simpa using after
  | cons lexeme lexemes later =>
      rw [read?_cons] at ok
      obtain ⟨middle, first, rest⟩ := Option.bind_eq_some_iff.mp ok
      simpa using later (after.step? first) rest

/-- The reader accepts exactly the expressions, each for the condition that it
spells. -/
theorem expression_iff_read? {lexemes : List Lexeme} {condition : Condition ColumnName} :
    Expression .disjunction lexemes condition ↔
      (Pending.read? lexemes .start).bind Pending.finish? = some condition := by
  rw [Option.bind_eq_some_iff]
  refine ⟨Expression.exists_read?, ?_⟩
  rintro ⟨pending, read, finish⟩
  have started : Pending.start.After [] :=
    .begun .outermost Level.open_empty .operand
  have after := started.read? read
  rw [List.nil_append] at after
  cases after with
  | begun _ _ begun => cases begun <;> contradiction
  | complete enclosed closed =>
      obtain ⟨spelled, value, expression⟩ := closed.exists_value?
      cases enclosed with
      | outermost =>
          cases value.symm.trans finish
          exact expression
      | inside _ _ _ => contradiction

end CardShell.Sql
