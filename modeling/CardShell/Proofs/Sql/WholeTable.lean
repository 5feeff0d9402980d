import CardShell.Database
import CardShell.Proofs.Catalog.Order
import CardShell.Selection

/-!
# Selecting a whole table

A quoted name is one lexeme, and the token of that lexeme is the name.  So the
statement of a selection without clauses names exactly the table of its entity,
whatever characters the name has, and running it yields every row of that table
in storage order.
-/

namespace CardShell.Sql

/-! ## Quoted names -/

/-- Taking one of two neighbouring quotes away undoes doubling them. -/
theorem undouble_doubleQuotes (name : List Char) :
    undouble '"' (Text.doubleQuotes name) = name := by
  induction name with
  | nil => rfl
  | cons character name shorter =>
      by_cases quote : character = '"'
      · rw [Text.doubleQuotes, if_pos quote, undouble, if_pos (by decide), shorter, quote]
      · rw [Text.doubleQuotes, if_neg quote]
        cases doubled : Text.doubleQuotes name with
        | nil =>
            rw [doubled] at shorter
            rw [undouble, ← shorter]
            · rfl
            · simp
        | cons next rest =>
            rw [doubled] at shorter
            rw [undouble, if_neg (by simp [quote]), shorter]

/-- A quoted name stands for the name. -/
theorem unquote_quoteName (name : List Char) :
    unquote '"' (Text.quoteName name) = String.ofList name := by
  rw [unquote, Text.quoteName, List.drop_one, List.tail_cons, List.dropLast_concat,
    undouble_doubleQuotes]

/-- A quote opens or closes a quoted name that is being read. -/
theorem step_quote (closed : Bool) (reversed : List Char) (position offset : Nat)
    (finished : List Lexeme) :
    Scan.step ⟨position, some ⟨.quoted closed, reversed, offset⟩, finished⟩ '"' =
      ⟨position + 1, some ⟨.quoted !closed, '"' :: reversed, offset⟩, finished⟩ :=
  rfl

/-- Any other character belongs to a quoted name that is open. -/
theorem step_inside {character : Char} (plain : character ≠ '"') (reversed : List Char)
    (position offset : Nat) (finished : List Lexeme) :
    Scan.step ⟨position, some ⟨.quoted false, reversed, offset⟩, finished⟩ character =
      ⟨position + character.utf8Size,
        some ⟨.quoted false, character :: reversed, offset⟩, finished⟩ := by
  simp [Scan.step, Partial.extendMode?, plain]

/-- The doubled characters of a name leave a quoted name open. -/
theorem foldl_step_doubleQuotes (name reversed : List Char) (position offset : Nat)
    (finished : List Lexeme) :
    (Text.doubleQuotes name).foldl Scan.step
        ⟨position, some ⟨.quoted false, reversed, offset⟩, finished⟩ =
      ⟨position + Text.byteLength (Text.doubleQuotes name),
        some ⟨.quoted false, (Text.doubleQuotes name).reverse ++ reversed, offset⟩, finished⟩ := by
  induction name generalizing reversed position with
  | nil => rfl
  | cons character name shorter =>
      by_cases quote : character = '"'
      · rw [Text.doubleQuotes, if_pos quote, List.foldl_cons, List.foldl_cons, step_quote,
          step_quote, Bool.not_false, Bool.not_true, shorter, List.reverse_cons,
          List.reverse_cons, List.append_assoc, List.append_assoc, Nat.add_assoc, Nat.add_assoc]
        rfl
      · rw [Text.doubleQuotes, if_neg quote, List.foldl_cons, step_inside quote, shorter,
          List.reverse_cons, List.append_assoc, Nat.add_assoc]
        rfl

theorem byteLength_append (left right : List Char) :
    Text.byteLength (left ++ right) = Text.byteLength left + Text.byteLength right := by
  induction left with
  | nil => exact (Nat.zero_add _).symm
  | cons character left shorter =>
      change character.utf8Size + Text.byteLength (left ++ right) = _
      rw [shorter, ← Nat.add_assoc]
      rfl

/-- Between two lexemes a quoted name starts one that holds the whole of it. -/
theorem foldl_step_quoteName (name : List Char) (position : Nat) (finished : List Lexeme) :
    (Text.quoteName name).foldl Scan.step ⟨position, none, finished⟩ =
      ⟨position + Text.byteLength (Text.quoteName name),
        some ⟨.quoted true, (Text.quoteName name).reverse, position⟩, finished⟩ := by
  have opens : Scan.step ⟨position, none, finished⟩ '"' =
      ⟨position + 1, some ⟨.quoted false, ['"'], position⟩, finished⟩ :=
    rfl
  have length : Text.byteLength (Text.quoteName name) =
      1 + (Text.byteLength (Text.doubleQuotes name) + 1) := by
    change 1 + Text.byteLength (Text.doubleQuotes name ++ ['"']) = _
    rw [byteLength_append]
    rfl
  rw [length, Text.quoteName, List.foldl_cons, opens, List.foldl_append, foldl_step_doubleQuotes,
    List.foldl_cons, step_quote, List.foldl_nil, List.reverse_cons, List.reverse_append,
    Nat.add_assoc, Nat.add_assoc]
  rfl

/-! ## The statement of a whole table -/

/-- What stands in front of the table name. -/
def opening : List Lexeme :=
  [⟨.word "SELECT", "SELECT", 0⟩, ⟨.star, "*", 7⟩, ⟨.word "FROM", "FROM", 9⟩]

theorem foldl_step_opening :
    "SELECT * FROM ".toList.foldl Scan.step .start = ⟨14, none, opening.reverse⟩ := by
  rfl

/-- The lexemes of a statement without further parts. -/
theorem lexemes_wholeTable (name : List Char) :
    lexemes ("SELECT * FROM ".toList ++ Text.quoteName name) =
      opening ++ [⟨.quoted (String.ofList name), String.ofList (Text.quoteName name), 14⟩] := by
  rw [lexemes, List.foldl_append, foldl_step_opening, foldl_step_quoteName]
  simp [Scan.flush, Partial.lexeme, Partial.token, Partial.spelling, unquote_quoteName]

theorem keyword?_select : keyword? "SELECT" = some .select := by
  decide +kernel

theorem keyword?_from : keyword? "FROM" = some .source := by
  decide +kernel

/-- Behind the opening the name of a table is expected. -/
theorem foldlM_step_opening (sql : String) :
    opening.foldlM (Reader.step sql) .start = .ok (Reader.start.goTo .table) := by
  have first : Reader.step sql .start ⟨.word "SELECT", "SELECT", 0⟩ =
      .ok (Reader.start.goTo .star) := by
    simp [Reader.step, Reader.step?, Reader.start, Token.keyword?, keyword?_select, Reader.goTo]
  have third : Reader.step sql (Reader.start.goTo .source) ⟨.word "FROM", "FROM", 9⟩ =
      .ok (Reader.start.goTo .table) := by
    simp [Reader.step, Reader.step?, Reader.start, Token.keyword?, keyword?_from, Reader.goTo]
  rw [opening, List.foldlM_cons, first]
  change List.foldlM (Reader.step sql) (Reader.start.goTo .source)
    [⟨.word "FROM", "FROM", 9⟩] = _
  rw [List.foldlM_cons, third]
  rfl

/-- A statement without further parts is read as one that names the table, which
starts behind the fourteen bytes in front of it. -/
theorem read_wholeTable (sql : String) (name : List Char)
    (written : sql.toList = "SELECT * FROM ".toList ++ Text.quoteName name) :
    read sql = .ok ⟨String.ofList name, 14, none, [], [], none⟩ := by
  rw [read, written, lexemes_wholeTable, List.foldlM_append, foldlM_step_opening]
  rfl

end CardShell.Sql

namespace CardShell

/-- A selection without clauses asks for the table of its entity and has no
further parts. -/
theorem Selection.toList_sql_all (entity : Entity) :
    (Selection.all entity).sql.toList =
      "SELECT * FROM ".toList ++ Text.quoteName entity.name.toList := by
  have plain : (all entity).sql =
      "SELECT * FROM " ++ Text.quoteString entity.name ++ "" ++ "" ++ "" ++ "" :=
    rfl
  have quoted : (Text.quoteString entity.name).toList = Text.quoteName entity.name.toList :=
    String.toList_ofList
  rw [plain, String.append_empty, String.append_empty, String.append_empty, String.append_empty,
    String.toList_append, quoted]

namespace Database

/-- A name finds the table of that name, since there is only one. -/
theorem table?_of_mem {database : Database} {table : Table} (member : table ∈ database.tables) :
    database.table? table.name = some table :=
  (find?_eq_some_iff_of_nodup database.distinct).mpr ⟨member, rfl⟩

/-- The statement of a selection without clauses yields every row of the table of
its entity, in storage order. -/
theorem run_sql_all {database : Database} {table : Table} (member : table ∈ database.tables)
    {entity : Entity} (same : entity.name = table.name) :
    database.run (Selection.all entity).sql = .ok (table.columnNames, table.rows) := by
  have found : database.table? (String.ofList entity.name.toList) = some table := by
    rw [String.ofList_toList, same]
    exact table?_of_mem member
  rw [run, Sql.read_wholeTable _ _ (Selection.toList_sql_all entity)]
  simp only [bind, Except.bind, found]
  rfl

end Database

end CardShell
