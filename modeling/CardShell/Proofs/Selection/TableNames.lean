import CardShell.Proofs.Selection.Parentheses

/-!
# Table names in statements

A statement writes the name of its table behind `FROM` and at the start of every filter,
quoted each time, and goes on with a blank, a dot or nothing.  So whatever characters the
name has, each of these places is read as this name, and what stands behind it is left as
it was written.
-/

namespace CardShell

namespace Sql

/-- A quoted name at the start of a text is its first lexeme, and the others are those of
what follows. -/
theorem lexemes_quoteName_append (name : List Char) {rest : List Char}
    (free : rest.head? ≠ some '"') :
    lexemes (Text.quoteName name ++ rest) =
      ⟨.quoted (String.ofList name), String.ofList (Text.quoteName name), 0⟩ ::
        (lexemes rest).map (Lexeme.moved (Text.byteLength (Text.quoteName name))) := by
  have scanned := foldl_step_quoteName name 0 []
  have apart : Apart (Text.quoteName name) rest := by
    intro pending found character first
    rw [Scan.start, scanned] at found
    cases found
    have plain : character ≠ '"' := fun same => free (same ▸ first)
    simp [Partial.extendMode?, plain]
  have single : lexemes (Text.quoteName name) =
      [⟨.quoted (String.ofList name), String.ofList (Text.quoteName name), 0⟩] := by
    rw [lexemes, Scan.start, scanned]
    simp [Scan.flush, Partial.lexeme, Partial.token, Partial.spelling, unquote_quoteName]
  rw [lexemes_append apart, single]
  rfl

end Sql

namespace Selection

/-- Behind the name of the table a statement ends or goes on with a blank. -/
theorem exists_sql_eq (selection : Selection) :
    ∃ rest : String, (rest = "" ∨ rest.toList.head? = some ' ') ∧
      selection.sql = "SELECT * FROM " ++ Text.quoteString selection.entity.name ++ rest := by
  refine ⟨partSql " WHERE " " AND " (selection.filters.map (filterSql selection.entity.name)) ++
    furtherSql selection.groupings selection.orderings selection.limit, ?_, ?_⟩
  · rcases selection with ⟨entity, filters, groupings, orderings, limit⟩
    cases filters with
    | cons filter filters => simp [partSql_cons]
    | nil =>
        cases groupings with
        | cons terms groupings => simp [furtherSql, partSql_nil, partSql_cons]
        | nil =>
            cases orderings with
            | cons terms orderings => simp [furtherSql, partSql_nil, partSql_cons]
            | nil => cases limit <;> simp [furtherSql, partSql_nil, limitSql]
  · rw [sql_eq, String.append_assoc]

/-- The filters in front of a filter, each with the connective behind it. -/
def joined (table : String) (before : List String) : String :=
  String.join (before.map fun filter => filterSql table filter ++ " AND ")

theorem inFront_eq (table : String) (before : List String) :
    inFront table before = joined table before ++ "(" ++ Text.quoteString table ++ "." := by
  induction before with
  | nil => simp [inFront, joined]
  | cons filter before later =>
      rw [inFront_cons, later, joined, joined]
      simp [String.append_assoc]

/-- Every filter stands in a parenthesis of its own behind the name of the table and a
dot. -/
theorem exists_sql_eq_of_filters {selection : Selection} {before after : List String}
    {filter : String} (split : selection.filters = before ++ filter :: after) :
    ∃ behind : String,
      selection.sql =
        "SELECT * FROM " ++ Text.quoteString selection.entity.name ++ " WHERE " ++
          joined selection.entity.name before ++ "(" ++
            Text.quoteString selection.entity.name ++ ("." ++ filter ++ behind) := by
  rcases exists_conditions_eq selection.entity.name before filter after with ⟨behind, shape⟩
  refine ⟨behind ++ furtherSql selection.groupings selection.orderings selection.limit, ?_⟩
  have some : ∃ first others, before ++ filter :: after = first :: others := by
    cases before with
    | nil => exact ⟨filter, after, rfl⟩
    | cons first before => exact ⟨first, before ++ filter :: after, rfl⟩
  rcases some with ⟨first, others, whole⟩
  rw [inFront_eq, whole] at shape
  rw [sql_eq, split, whole, List.map_cons, partSql_cons, ← List.map_cons, shape]
  simp only [String.append_assoc]

/-- A quoted name that no further quote follows is read as the name, and what follows it is
left.  Nothing else is read, so different names are quoted differently, and the storage
engine takes the quoted name for one lexeme as well.  In the statement of a selection the
name of the table stands behind `FROM`, with a blank or nothing behind it, and at the start
of every filter, with a dot behind it, and is read back at each of these places. -/
theorem table_names_are_read_back :
    (∀ name rest : List Char, rest.head? ≠ some '"' →
      Text.readQuoted (Text.quoteName name ++ rest) = some (name, rest) ∧
        Sql.lexemes (Text.quoteName name ++ rest) =
          ⟨.quoted (String.ofList name), String.ofList (Text.quoteName name), 0⟩ ::
            (Sql.lexemes rest).map
              (Sql.Lexeme.moved (Text.byteLength (Text.quoteName name)))) ∧
    (∀ text name rest : List Char, Text.readQuoted text = some (name, rest) →
      text = Text.quoteName name ++ rest ∧ rest.head? ≠ some '"') ∧
    Function.Injective Text.quoteString ∧
    ∀ selection : Selection,
      let name := selection.entity.name
      let quoted := Text.quoteString name
      (∃ rest : String, selection.sql = "SELECT * FROM " ++ quoted ++ rest ∧
        (rest = "" ∨ rest.toList.head? = some ' ') ∧
        Text.readQuoted (quoted ++ rest).toList = some (name.toList, rest.toList)) ∧
      ∀ before filter after, selection.filters = before ++ filter :: after →
        ∃ behind : String,
          let rest := "." ++ filter ++ behind
          selection.sql =
            "SELECT * FROM " ++ quoted ++ " WHERE " ++ joined name before ++ "(" ++ quoted ++
              rest ∧
          Text.readQuoted (quoted ++ rest).toList = some (name.toList, rest.toList) := by
  refine ⟨?_, ?_, Text.quoteString_injective, ?_⟩
  · intro name rest free
    exact ⟨Text.readQuoted_quoteName name free, Sql.lexemes_quoteName_append name free⟩
  · intro text name rest
    exact Text.readQuoted_eq_some_iff.mp
  · intro selection name quoted
    have reads {rest : String} (free : rest.toList.head? ≠ some '"') :
        Text.readQuoted (quoted ++ rest).toList = some (name.toList, rest.toList) := by
      have shape : (quoted ++ rest).toList = Text.quoteName name.toList ++ rest.toList := by
        rw [String.toList_append]
        exact congrArg (· ++ rest.toList) String.toList_ofList
      rw [shape]
      exact Text.readQuoted_quoteName name.toList free
    constructor
    · rcases selection.exists_sql_eq with ⟨rest, ends, written⟩
      refine ⟨rest, written, ends, reads ?_⟩
      rcases ends with rfl | blank
      · simp
      · rw [blank]
        decide
    · intro before filter after split
      rcases exists_sql_eq_of_filters split with ⟨behind, written⟩
      exact ⟨behind, written, reads (by simp)⟩

/-- A name of two quotes is read back behind `FROM` and at the start of the second filter.
Another quote behind it would be read as part of the name. -/
theorem name_of_quotes_is_read_back :
    let quoted := "\"\"\"\"\"\""
    let selection : Selection := ⟨⟨"\"\"", ["id"]⟩, ["id > 1", "\"id\" < 9"], [], [], some 2⟩
    ['.'].head? ≠ some '"' ∧
    Text.readQuoted (Text.quoteName ['"', '"'] ++ ['.']) = some (['"', '"'], ['.']) ∧
    Text.readQuoted (Text.quoteName ['"', '"'] ++ ['"', '.', '"']) =
      some (['"', '"', '"', '.'], []) ∧
    selection.filters = ["id > 1"] ++ "\"id\" < 9" :: [] ∧
    ∃ behind : String,
      selection.sql =
        "SELECT * FROM " ++ quoted ++ " WHERE " ++ ("(" ++ quoted ++ ".id > 1) AND ") ++ "(" ++
          quoted ++ ("." ++ "\"id\" < 9" ++ behind) ∧
      Text.readQuoted (quoted ++ ("." ++ "\"id\" < 9" ++ behind)).toList =
        some ("\"\"".toList, ("." ++ "\"id\" < 9" ++ behind).toList) := by
  intro quoted selection
  rcases table_names_are_read_back with ⟨reads, -, -, places⟩
  have free : ['.'].head? ≠ some '"' := by
    decide
  have name : Text.quoteString selection.entity.name = quoted := by
    decide
  have front : joined selection.entity.name ["id > 1"] = "(" ++ quoted ++ ".id > 1) AND " := by
    decide
  rcases (places selection).2 ["id > 1"] "\"id\" < 9" [] rfl with ⟨behind, written, read⟩
  rw [name, front] at written
  rw [name] at read
  exact ⟨free, (reads _ _ free).1, by decide, rfl, behind, written, read⟩

end Selection

end CardShell
