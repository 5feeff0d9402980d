import CardShell.Proofs.Sql.Acceptance
import CardShell.Proofs.Sql.Joining

/-!
# Conditions made of filters

Every filter stands in its own parentheses behind a quoted table name.  A filter
that is an expression there stays one between the parentheses of a statement, where
an expression is an operand like any other, so several filters are read as the
conjunction of what each of them says, whatever connectives they have inside.
-/

namespace CardShell.Sql

theorem keyword?_filter : keyword? "WHERE" = some .filter := by
  decide +kernel

theorem keyword?_and : keyword? "AND" = some .and := by
  decide +kernel

theorem lexemes_filter : lexemes " WHERE ".toList = [⟨.word "WHERE", "WHERE", 1⟩] := by
  rfl

theorem lexemes_and : lexemes " AND ".toList = [⟨.word "AND", "AND", 1⟩] := by
  rfl

/-! ## The condition of a statement -/

namespace Reader

/-- While a condition is read, the rest of the statement stays as it is. -/
theorem foldlM_step_condition (sql : String) (statement : Statement ColumnName)
    {lexemes : List Lexeme} {pending next : Pending}
    (read : Pending.read? lexemes pending = some next) :
    lexemes.foldlM (step sql) ⟨.condition pending, statement⟩ =
      .ok ⟨.condition next, statement⟩ := by
  induction lexemes generalizing pending with
  | nil =>
      cases read
      rfl
  | cons lexeme lexemes later =>
      rw [Pending.read?_cons] at read
      obtain ⟨middle, first, rest⟩ := Option.bind_eq_some_iff.mp read
      have taken : step sql ⟨.condition pending, statement⟩ lexeme =
          .ok ⟨.condition middle, statement⟩ := by
        rw [step, if_neg (Pending.ne_illegal_of_step? first)]
        simp only [step?, first, goTo]
      rw [List.foldlM_cons, taken]
      exact later rest

/-- The keyword of a condition may stand behind the table. -/
theorem step_filter (sql : String) (statement : Statement ColumnName) {sign : Lexeme}
    (is : sign.Is .filter) :
    step sql ⟨.clause, statement⟩ sign = .ok ⟨.condition .start, statement⟩ := by
  obtain ⟨text, word⟩ := Token.exists_word_of_keyword? is
  rw [Lexeme.Is, word] at is
  simp [step, step?, nextPart?, word, is, goTo]

end Reader

/-- A statement whose one further part is a condition is read as one that has this
condition. -/
theorem read_filtered {sql : String} {name text : List Char} {condition : Condition ColumnName}
    (written : sql.toList =
      "SELECT * FROM ".toList ++ Text.quoteName name ++ (" WHERE ".toList ++ text))
    (expression : Expression .disjunction (lexemes text) condition) :
    ∃ distance, read sql =
      .ok ⟨String.ofList name, 14, some (condition.map (ColumnName.moved distance)), [], [],
        none⟩ := by
  have free : (" WHERE ".toList ++ text).head? ≠ some '"' := by
    simp
  have whole := lexemes_append (apart_quoteName name free)
  rw [← written, lexemes_wholeTable, lexemes_append (connective_filter.apart text), lexemes_filter,
    List.singleton_append, List.map_cons, Lexeme.map_moved_map_moved] at whole
  generalize Text.byteLength _ + _ = distance at whole
  have is (place : Nat) : (Lexeme.moved place ⟨.word "WHERE", "WHERE", 1⟩).Is .filter :=
    keyword?_filter
  obtain ⟨pending, reads, finish⟩ := (expression.moved distance).exists_read?
  have reader : (lexemes sql.toList).foldlM (Reader.step sql) .start =
      .ok ⟨.condition pending, ⟨String.ofList name, 14, none, [], [], none⟩⟩ := by
    rw [whole, List.foldlM_append, List.foldlM_append, foldlM_step_opening]
    change List.foldlM (Reader.step sql)
      ⟨.clause, ⟨String.ofList name, 14, none, [], [], none⟩⟩ _ = _
    rw [List.foldlM_cons, Reader.step_filter sql _ (is _)]
    exact Reader.foldlM_step_condition sql _ reads
  refine ⟨distance, ?_⟩
  rw [read, reader]
  simp only [bind, Except.bind, Reader.finish?, finish, Option.map_some]

end CardShell.Sql

namespace CardShell.Selection

open Sql (Expression Legal)

/-! ## Filters in their parentheses -/

/-- A filter as the statement has it between its parentheses. -/
def qualified (table filter : String) : String :=
  Text.quoteString table ++ "." ++ filter

/-- A filter in its parentheses starts with the quote of the table name. -/
theorem exists_toList_qualified (table filter : String) :
    ∃ inner, (qualified table filter).toList = '"' :: inner :=
  ⟨_, by rw [qualified, String.append_assoc, String.toList_append, Text.quoteString,
    String.toList_ofList, Text.quoteName, List.cons_append]⟩

theorem toList_filterSql (table filter : String) :
    (filterSql table filter).toList = '(' :: ((qualified table filter).toList ++ [')']) := by
  simp [filterSql, qualified]

theorem legal_filterSql {table filter : String} (legal : Legal (qualified table filter).toList) :
    Legal (filterSql table filter).toList := by
  rcases exists_toList_qualified table filter with ⟨inner, shape⟩
  rw [shape] at legal
  rw [toList_filterSql, shape]
  exact Sql.legal_parenthesized legal

/-- What a filter says behind the quoted name of a table, where it is one whole expression,
without the places of its columns in the text. -/
def Means (table filter : String) (condition : Sql.Condition Sql.ColumnName) : Prop :=
  ∃ expression, Expression .disjunction (Sql.lexemes (qualified table filter).toList) expression ∧
    expression.map Sql.ColumnName.unplaced = condition

/-- What a filter says is what the reader makes of it. -/
theorem means_iff {table filter : String} {condition : Sql.Condition Sql.ColumnName} :
    Means table filter condition ↔
      ((Sql.Pending.read? (Sql.lexemes (qualified table filter).toList) .start).bind
        Sql.Pending.finish?).map (Sql.Condition.map Sql.ColumnName.unplaced) = some condition := by
  simp only [Means, Sql.expression_iff_read?, Option.map_eq_some_iff]

namespace Means

variable {table filter : String} {condition other : Sql.Condition Sql.ColumnName}

/-- A filter says one thing only. -/
theorem unique (means : Means table filter condition) (another : Means table filter other) :
    condition = other := by
  obtain ⟨expression, spells, rfl⟩ := means
  obtain ⟨same, spellsSame, rfl⟩ := another
  rw [spells.unique spellsSame]

theorem legal (means : Means table filter condition) : Legal (filterSql table filter).toList := by
  obtain ⟨expression, spells, -⟩ := means
  exact legal_filterSql spells.ne_illegal

/-- In its parentheses a filter is an operand that says the same. -/
theorem operand (means : Means table filter condition) :
    ∃ expression,
      Expression (.operand false) (Sql.lexemes (filterSql table filter).toList) expression ∧
        expression.map Sql.ColumnName.unplaced = condition := by
  obtain ⟨expression, spells, same⟩ := means
  obtain ⟨inner, shape⟩ := exists_toList_qualified table filter
  rw [shape] at spells
  have inside := spells.moved 1
  refine ⟨_, ?_, (Sql.Condition.map_unplaced_moved 1 expression).trans same⟩
  rw [toList_filterSql, shape, Sql.lexemes_parenthesized spells.ne_illegal]
  exact .group rfl inside rfl

end Means

/-! ## Filters that are joined -/

variable {table : String} {meaning : String → Sql.Condition Sql.ColumnName}

/-- Filters that are joined to a conjunction make a longer one, each as one operand. -/
theorem exists_conjunction {filters : List String}
    (means : ∀ filter ∈ filters, Means table filter (meaning filter)) {left : String}
    {first : Sql.Condition Sql.ColumnName} (legal : Legal left.toList)
    (expression : Expression .conjunction (Sql.lexemes left.toList) first) :
    ∃ whole,
      Expression .conjunction
        (Sql.lexemes
          (String.intercalate " AND " (left :: filters.map (filterSql table))).toList) whole ∧
        whole.map Sql.ColumnName.unplaced =
          (filters.map meaning).foldl .and (first.map Sql.ColumnName.unplaced) := by
  -- What has been joined so far is the left part of the next conjunction, as the reader
  -- takes conjuncts from the left.
  induction filters generalizing left first with
  | nil => exact ⟨first, by simpa using expression, rfl⟩
  | cons filter filters later =>
      obtain ⟨meansFirst, means⟩ := List.forall_mem_cons.mp means
      obtain ⟨second, operand, same⟩ := meansFirst.operand
      have longer : (left ++ " AND " ++ filterSql table filter).toList =
          left.toList ++ (" AND ".toList ++ (filterSql table filter).toList) := by
        rw [String.toList_append, String.toList_append, List.append_assoc]
      have cut := Sql.connective_and.lexemes_join legal (filterSql table filter).toList
      rw [Sql.lexemes_and, List.singleton_append, List.map_cons, Sql.Lexeme.map_moved_map_moved,
        ← longer] at cut
      have legalLonger := Sql.connective_and.legal_join legal meansFirst.legal
      rw [← longer] at legalLonger
      have is (place : Nat) : (Sql.Lexeme.moved place ⟨.word "AND", "AND", 1⟩).Is .and :=
        Sql.keyword?_and
      have joined := expression.and (is (Text.byteLength left.toList))
        (operand.moved (Text.byteLength left.toList + Text.byteLength " AND ".toList))
      rw [← cut] at joined
      rw [List.map_cons, Sql.intercalate_join]
      obtain ⟨whole, spells, final⟩ := later means legalLonger joined
      refine ⟨whole, spells, ?_⟩
      rw [final, List.map_cons, List.foldl_cons, Sql.Condition.map, Sql.Condition.negatedIf,
        if_neg Bool.false_ne_true, Sql.Condition.map_unplaced_moved, same]

/-- The filters of a statement are one expression, the conjunction of what they say. -/
theorem exists_expression_filters {filter : String} {filters : List String}
    (means : ∀ condition ∈ filter :: filters, Means table condition (meaning condition)) :
    ∃ whole,
      Expression .disjunction
        (Sql.lexemes
          (String.intercalate " AND " ((filter :: filters).map (filterSql table))).toList) whole ∧
        whole.map Sql.ColumnName.unplaced = (filters.map meaning).foldl .and (meaning filter) := by
  obtain ⟨first, others⟩ := List.forall_mem_cons.mp means
  obtain ⟨expression, operand, same⟩ := first.operand
  obtain ⟨whole, spells, final⟩ := exists_conjunction others first.legal operand.conjunct
  refine ⟨whole, spells.disjunct, ?_⟩
  rw [final, Sql.Condition.negatedIf, if_neg Bool.false_ne_true, same]

/-- Clauses that are filters make a selection that has those filters. -/
theorem addAll_filter (selection : Selection) (filters : List String) :
    selection.addAll (filters.map .filter) =
      { selection with filters := selection.filters ++ filters } := by
  induction filters generalizing selection with
  | nil => simp [addAll]
  | cons filter filters later =>
      rw [List.map_cons, addAll, List.foldl_cons, ← addAll, later]
      simp [add]

end CardShell.Selection
