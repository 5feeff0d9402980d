import CardShell.Proofs.Sql.Filters
import CardShell.Proofs.Sql.NamedTable
import CardShell.Proofs.Text.Nesting
import CardShell.Proofs.Text.Quoting

/-!
# Filters in their parentheses

A balanced filter stays inside of the parentheses that the statement puts around it, so
the outermost parentheses of the condition are those of its filters, and between them
there is nothing but `AND`.  A statement is therefore cut into its filters in one way
only, whatever is grouped, ordered or limited behind them.
-/

namespace CardShell.Selection

/-! ## The parts of a statement -/

/-- The filters behind the first one. -/
def furtherFilters (table : String) (filters : List String) : List Char :=
  filters.foldr
    (fun filter further =>
      " AND (".toList ++ ((qualified table filter).toList ++ ')' :: further)) []

theorem furtherFilters_nil (table : String) : furtherFilters table [] = [] :=
  rfl

theorem furtherFilters_cons (table filter : String) (filters : List String) :
    furtherFilters table (filter :: filters) =
      " AND (".toList ++ ((qualified table filter).toList ++ ')' :: furtherFilters table filters) :=
  rfl

theorem toList_intercalate_filterSql (table filter : String) (filters : List String) :
    (String.intercalate " AND " ((filter :: filters).map (filterSql table))).toList =
      '(' :: ((qualified table filter).toList ++ ')' :: furtherFilters table filters) := by
  induction filters generalizing filter with
  | nil => simp [toList_filterSql, furtherFilters_nil]
  | cons next filters later =>
      rw [List.map_cons, List.map_cons, String.intercalate_cons_cons, String.toList_append,
        String.toList_append, ← List.map_cons, later, toList_filterSql, furtherFilters_cons]
      simp

/-- The condition of a statement, with the blank in front of it. -/
def filterPart (table : String) : List String → List Char
  | [] => []
  | filter :: filters =>
      " WHERE (".toList ++
        ((qualified table filter).toList ++ ')' :: furtherFilters table filters)

theorem filterPart_nil (table : String) : filterPart table [] = [] :=
  rfl

theorem filterPart_cons (table filter : String) (filters : List String) :
    filterPart table (filter :: filters) =
      " WHERE (".toList ++
        ((qualified table filter).toList ++ ')' :: furtherFilters table filters) :=
  rfl

theorem partSql_nil (keyword separator : String) : partSql keyword separator [] = "" :=
  rfl

theorem partSql_cons (keyword separator item : String) (items : List String) :
    partSql keyword separator (item :: items) =
      keyword ++ String.intercalate separator (item :: items) :=
  rfl

/-- The limit of a statement. -/
def limitSql : Option Nat → String
  | some count => " LIMIT " ++ Text.ofNat count
  | none => ""

/-- What a statement has behind its filters. -/
def furtherSql (groupings orderings : List String) (limit : Option Nat) : String :=
  partSql " GROUP BY " ", " groupings ++ partSql " ORDER BY " ", " orderings ++ limitSql limit

theorem furtherSql_nil : furtherSql [] [] none = "" := by
  simp only [furtherSql, partSql_nil, limitSql, String.append_empty]

theorem sql_eq (selection : Selection) :
    selection.sql =
      "SELECT * FROM " ++ Text.quoteString selection.entity.name ++
        partSql " WHERE " " AND " (selection.filters.map (filterSql selection.entity.name)) ++
        furtherSql selection.groupings selection.orderings selection.limit := by
  rw [furtherSql, ← String.append_assoc, ← String.append_assoc]
  rfl

theorem toList_filterPart (table : String) (filters : List String) :
    (partSql " WHERE " " AND " (filters.map (filterSql table))).toList =
      filterPart table filters := by
  cases filters with
  | nil => rfl
  | cons filter filters =>
      rw [List.map_cons, partSql_cons, ← List.map_cons, String.toList_append,
        toList_intercalate_filterSql, filterPart_cons]
      simp

theorem toList_sql_eq (selection : Selection) :
    selection.sql.toList =
      "SELECT * FROM ".toList ++ (Text.quoteName selection.entity.name.toList ++
        (filterPart selection.entity.name selection.filters ++
          (furtherSql selection.groupings selection.orderings selection.limit).toList)) := by
  have quoted : (Text.quoteString selection.entity.name).toList =
      Text.quoteName selection.entity.name.toList :=
    String.toList_ofList
  rw [sql_eq, String.toList_append, String.toList_append, String.toList_append,
    toList_filterPart, quoted, List.append_assoc, List.append_assoc]

/-- Behind the filters there is neither a quote nor what a filter starts with. -/
theorem furtherSql_ends (groupings orderings : List String) (limit : Option Nat) :
    let rest := (furtherSql groupings orderings limit).toList
    rest.head? ≠ some '"' ∧ rest[1]? ≠ some 'A' ∧ rest[1]? ≠ some 'W' := by
  cases groupings with
  | cons terms groupings => simp [furtherSql, partSql_cons]
  | nil =>
      cases orderings with
      | cons terms orderings => simp [furtherSql, partSql_cons, partSql_nil]
      | nil => cases limit <;> simp [furtherSql, partSql_nil, limitSql]

/-- Behind the name of the table there is no quote. -/
theorem filterPart_append_free (table : String) (filters : List String) {rest : List Char}
    (free : rest.head? ≠ some '"') : (filterPart table filters ++ rest).head? ≠ some '"' := by
  apply head?_append_ne _ free
  cases filters with
  | nil => simp [filterPart_nil]
  | cons filter filters => simp [filterPart_cons]

/-! ## The groups of a condition -/

theorem toList_qualified (table filter : String) :
    (qualified table filter).toList = Text.quoteName table.toList ++ '.' :: filter.toList := by
  simp [qualified, Text.quoteString]

/-- The name of a table is balanced whatever it is, so a filter stays balanced behind it. -/
theorem balanced_qualified (table : String) {filter : String}
    (balanced : Text.Balanced filter.toList) : Text.Balanced (qualified table filter).toList := by
  have dot : Text.Balanced ['.'] := by
    decide
  rw [toList_qualified]
  exact (Text.balanced_quoteName _).append (dot.append balanced)

/-- A filter behind another one, as a group. -/
def furtherGroup (table filter : String) : Text.Group :=
  ⟨" AND ".toList, (qualified table filter).toList⟩

theorem toList_and_open : " AND (".toList = " AND ".toList ++ ['('] := by
  decide

/-- Each further filter is one group more, with a connective in front of it. -/
theorem foldlM_step?_furtherFilters (table : String) {filters : List String}
    (balanced : ∀ filter ∈ filters, Text.Balanced filter.toList) (groups : List Text.Group) :
    (furtherFilters table filters).foldlM Text.Cut.step? ⟨.start, groups, [], []⟩ =
      some ⟨.start, groups ++ filters.map (furtherGroup table), [], []⟩ := by
  induction filters generalizing groups with
  | nil =>
      rw [List.map_nil, List.append_nil]
      rfl
  | cons filter filters later =>
      rcases List.forall_mem_cons.mp balanced with ⟨first, others⟩
      have plain : ∀ character ∈ " AND ".toList,
          Text.Place.start.step? character = some .start := by
        simp [Text.Place.start, Text.Place.step?]
      rw [furtherFilters_cons, toList_and_open, List.append_assoc,
        Text.Cut.foldlM_step?_plain plain, List.singleton_append,
        Text.Cut.foldlM_step?_group (balanced_qualified table first), later others,
        List.map_cons, List.append_assoc]
      rfl

/-- The condition of a statement has one group for each filter. -/
theorem groups?_conditions (table filter : String) {filters : List String}
    (balanced : ∀ condition ∈ filter :: filters, Text.Balanced condition.toList) :
    Text.groups? (String.intercalate " AND " ((filter :: filters).map (filterSql table))).toList =
      some (⟨[], (qualified table filter).toList⟩ :: filters.map (furtherGroup table), []) := by
  rcases List.forall_mem_cons.mp balanced with ⟨first, others⟩
  rw [toList_intercalate_filterSql, Text.groups?,
    Text.Cut.foldlM_step?_group (balanced_qualified table first),
    foldlM_step?_furtherFilters table others]
  rfl

/-! ## The depth of a filter -/

/-- What stands in front of a filter, within the condition: the filters in front of it,
and the parenthesis and the table name that it stands behind. -/
def inFront (table : String) (before : List String) : String :=
  before.foldr (fun filter front => filterSql table filter ++ " AND " ++ front)
    ("(" ++ Text.quoteString table ++ ".")

theorem inFront_cons (table filter : String) (before : List String) :
    inFront table (filter :: before) =
      filterSql table filter ++ " AND " ++ inFront table before :=
  rfl

/-- Every filter stands behind what is in front of it. -/
theorem exists_conditions_eq (table : String) (before : List String) (filter : String)
    (after : List String) :
    ∃ behind, String.intercalate " AND " ((before ++ filter :: after).map (filterSql table)) =
      inFront table before ++ filter ++ behind := by
  induction before with
  | nil =>
      have opened : filterSql table filter = inFront table [] ++ filter ++ ")" := rfl
      cases after with
      | nil =>
          refine ⟨")", ?_⟩
          rw [List.nil_append, List.map_singleton, String.intercalate_singleton, opened]
      | cons next after =>
          refine ⟨")" ++ (" AND " ++
            String.intercalate " AND " (filterSql table next :: after.map (filterSql table))), ?_⟩
          rw [List.nil_append, List.map_cons, List.map_cons, String.intercalate_cons_cons, opened]
          simp only [String.append_assoc]
  | cons first before later =>
      rcases later with ⟨behind, shape⟩
      have further : (before ++ filter :: after).map (filterSql table) ≠ [] := by
        simp
      refine ⟨behind, ?_⟩
      rw [List.cons_append, List.map_cons, String.intercalate_cons_of_ne_nil further, shape,
        inFront_cons]
      simp only [String.append_assoc]

/-- In front of a filter its own parenthesis is open and nothing else. -/
theorem scan?_inFront (table : String) {before : List String}
    (balanced : ∀ filter ∈ before, Text.Balanced filter.toList) :
    Text.Place.start.scan? (inFront table before).toList = some ⟨1, .outside⟩ := by
  induction before with
  | nil =>
      have opened : (inFront table []).toList =
          '(' :: (Text.quoteName table.toList ++ ['.']) := by
        simp [inFront, Text.quoteString]
      have opens : Text.Place.start.step? '(' = some ⟨1, .outside⟩ := rfl
      rw [opened, Text.Place.scan?_cons, opens, Option.bind_some, Text.Place.scan?_append,
        Text.Place.scan?_quoteName]
      rfl
  | cons filter before later =>
      rcases List.forall_mem_cons.mp balanced with ⟨first, others⟩
      have joined : Text.Balanced (filterSql table filter ++ " AND ").toList := by
        have connective : Text.Balanced " AND ".toList := by
          decide
        rw [String.toList_append, toList_filterSql]
        exact (balanced_qualified table first).parenthesized.append connective
      rw [inFront_cons, String.toList_append, Text.Place.scan?_append, joined]
      exact later others

/-! ## Reading the filters back -/

/-- A filter ends at the parenthesis that closes its own, whatever follows it. -/
theorem qualified_append_inj {table filter other : String} {lead further others : List Char}
    {rest behind : List Char} (balanced : Text.Balanced filter.toList)
    (also : Text.Balanced other.toList)
    (same : lead ++ ((qualified table filter).toList ++ ')' :: further) ++ rest =
      lead ++ ((qualified table other).toList ++ ')' :: others) ++ behind) :
    filter = other ∧ further ++ rest = others ++ behind := by
  simp only [List.append_assoc, List.cons_append, List.append_cancel_left_eq] at same
  rcases (balanced_qualified table balanced).append_close_inj (balanced_qualified table also) same
    with ⟨inside, outside⟩
  rw [toList_qualified, toList_qualified] at inside
  have texts := List.tail_eq_of_cons_eq (List.append_cancel_left inside)
  exact ⟨String.toList_inj.mp texts, outside⟩

theorem furtherFilters_second (table filter : String) (filters : List String)
    (rest : List Char) : (furtherFilters table (filter :: filters) ++ rest)[1]? = some 'A' :=
  rfl

theorem filterPart_second (table filter : String) (filters : List String) (rest : List Char) :
    (filterPart table (filter :: filters) ++ rest)[1]? = some 'W' :=
  rfl

/-- Further filters end where no other connective follows. -/
theorem furtherFilters_append_inj {table : String} {filters others : List String}
    (balanced : ∀ filter ∈ filters, Text.Balanced filter.toList)
    (also : ∀ filter ∈ others, Text.Balanced filter.toList) {rest behind : List Char}
    (ends : rest[1]? ≠ some 'A') (alsoEnds : behind[1]? ≠ some 'A')
    (same : furtherFilters table filters ++ rest = furtherFilters table others ++ behind) :
    filters = others := by
  induction filters generalizing others with
  | nil =>
      cases others with
      | nil => rfl
      | cons other others =>
          have second := congrArg (fun text : List Char => text[1]?) same
          exact absurd (second.trans (furtherFilters_second ..)) ends
  | cons filter filters later =>
      cases others with
      | nil =>
          have second := congrArg (fun text : List Char => text[1]?) same
          exact absurd (second.symm.trans (furtherFilters_second ..)) alsoEnds
      | cons other others =>
          rcases List.forall_mem_cons.mp balanced with ⟨first, balanced⟩
          rcases List.forall_mem_cons.mp also with ⟨alsoFirst, also⟩
          rcases qualified_append_inj first alsoFirst same with ⟨equal, same⟩
          rw [equal, later balanced also same]

theorem filterPart_append_inj {table : String} {filters others : List String}
    (balanced : ∀ filter ∈ filters, Text.Balanced filter.toList)
    (also : ∀ filter ∈ others, Text.Balanced filter.toList) {rest behind : List Char}
    (ends : rest[1]? ≠ some 'A' ∧ rest[1]? ≠ some 'W')
    (alsoEnds : behind[1]? ≠ some 'A' ∧ behind[1]? ≠ some 'W')
    (same : filterPart table filters ++ rest = filterPart table others ++ behind) :
    filters = others := by
  have second := congrArg (fun text : List Char => text[1]?) same
  cases filters with
  | nil =>
      cases others with
      | nil => rfl
      | cons other others => exact absurd (second.trans (filterPart_second ..)) ends.2
  | cons filter filters =>
      cases others with
      | nil => exact absurd (second.symm.trans (filterPart_second ..)) alsoEnds.2
      | cons other others =>
          rcases List.forall_mem_cons.mp balanced with ⟨first, balanced⟩
          rcases List.forall_mem_cons.mp also with ⟨alsoFirst, also⟩
          rcases qualified_append_inj first alsoFirst same with ⟨equal, same⟩
          rw [equal, furtherFilters_append_inj balanced also ends.1 alsoEnds.1 same]

/-- Statements with balanced filters are equal only if their tables and their filters
are, whatever they group, order and limit. -/
theorem eq_of_sql_eq {selection other : Selection}
    (balanced : ∀ filter ∈ selection.filters, Text.Balanced filter.toList)
    (also : ∀ filter ∈ other.filters, Text.Balanced filter.toList)
    (same : other.sql = selection.sql) :
    other.entity.name = selection.entity.name ∧ other.filters = selection.filters := by
  rcases furtherSql_ends selection.groupings selection.orderings selection.limit with
    ⟨free, ends⟩
  rcases furtherSql_ends other.groupings other.orderings other.limit with ⟨alsoFree, alsoEnds⟩
  have texts : other.sql.toList = selection.sql.toList := congrArg String.toList same
  rw [toList_sql_eq, toList_sql_eq, List.append_cancel_left_eq] at texts
  rcases Text.quoteName_append_inj (filterPart_append_free _ _ alsoFree)
    (filterPart_append_free _ _ free) texts with ⟨names, behind⟩
  have name := String.toList_inj.mp names
  rw [name] at behind
  exact ⟨name, filterPart_append_inj also balanced alsoEnds ends behind⟩

/-- Filters that close what they open stay in the parentheses that the statement puts
around them, whatever the table is called.  The condition has one outermost group for each
filter, which holds the quoted table name, a dot and the filter, and between two of them
there is `AND` and nothing else.  So at every character of a filter its own parenthesis is
open.  Groups, orders and limits only stand behind the condition, and no statement with
other balanced filters is the same text. -/
theorem filters_stay_in_their_parentheses (entity : Entity) (first : String)
    (others : List String)
    (balanced : ∀ filter ∈ first :: others, Text.Balanced filter.toList) :
    let table := Text.quoteString entity.name
    let bare : Selection := ⟨entity, first :: others, [], [], none⟩
    ∃ rest : String,
      bare.sql = "SELECT * FROM " ++ table ++ " WHERE " ++ rest ∧
      Text.groups? rest.toList = some
        (⟨[], (table ++ "." ++ first).toList⟩ ::
          others.map (fun filter => ⟨" AND ".toList, (table ++ "." ++ filter).toList⟩), []) ∧
      (∀ before filter after, first :: others = before ++ filter :: after →
        ∃ behind, rest = inFront entity.name before ++ filter ++ behind ∧
          ∀ upTo beyond, filter.toList = upTo ++ beyond → ∃ place : Text.Place,
            Text.Place.start.scan? ((inFront entity.name before).toList ++ upTo) = some place ∧
              0 < place.depth) ∧
      ∀ groupings orderings limit,
        let whole : Selection := ⟨entity, first :: others, groupings, orderings, limit⟩
        whole.sql = bare.sql ++ furtherSql groupings orderings limit ∧
          ∀ other : Selection, (∀ filter ∈ other.filters, Text.Balanced filter.toList) →
            other.sql = whole.sql →
              other.entity.name = entity.name ∧ other.filters = first :: others := by
  intro table bare
  have written : bare.sql = "SELECT * FROM " ++ table ++ " WHERE " ++
      String.intercalate " AND " ((first :: others).map (filterSql entity.name)) := by
    rw [sql_eq, furtherSql_nil, String.append_empty, List.map_cons, partSql_cons,
      ← String.append_assoc]
  refine ⟨_, written, groups?_conditions entity.name first balanced, ?_, ?_⟩
  · intro before filter after split
    rw [split] at balanced ⊢
    rcases exists_conditions_eq entity.name before filter after with ⟨behind, shape⟩
    refine ⟨behind, shape, ?_⟩
    intro upTo beyond parts
    have here : Text.Balanced filter.toList := balanced filter (by simp)
    have front := scan?_inFront entity.name fun filter member =>
      balanced filter (List.mem_append_left _ member)
    rw [parts] at here
    rw [Text.Place.scan?_append, front]
    exact here.depth_pos
  · intro groupings orderings limit whole
    constructor
    · rw [sql_eq whole, sql_eq bare, furtherSql_nil, String.append_empty]
    · intro other also same
      exact @eq_of_sql_eq whole other balanced also same

/-- Parentheses and connectives in quotes are part of a filter.  A filter that closes a
parenthesis of the statement is not balanced, and is read back as two. -/
theorem quoted_parentheses_do_not_count :
    let odd : Entity := ⟨"odd\"(name", ["id"]⟩
    let plain : Entity := ⟨"t", ["a"]⟩
    (∃ rest : String,
      (⟨odd, ["a = ':) OR ('", "(b OR (c)), \"d)\""], [], [], none⟩ : Selection).sql =
        "SELECT * FROM \"odd\"\"(name\" WHERE " ++ rest ∧
      Text.groups? rest.toList = some
        ([⟨[], "\"odd\"\"(name\".a = ':) OR ('".toList⟩,
          ⟨" AND ".toList, "\"odd\"\"(name\".(b OR (c)), \"d)\"".toList⟩], [])) ∧
    ¬Text.Balanced "a) AND (\"t\".b".toList ∧
    (⟨plain, ["a) AND (\"t\".b"], [], [], none⟩ : Selection).sql =
      (⟨plain, ["a", "b"], [], [], none⟩ : Selection).sql := by
  intro odd plain
  rcases filters_stay_in_their_parentheses odd "a = ':) OR ('" ["(b OR (c)), \"d)\""]
    (by decide) with ⟨rest, written, groups, -⟩
  have quoted : Text.quoteString odd.name = "\"odd\"\"(name\"" := by
    decide
  rw [quoted] at written groups
  exact ⟨⟨rest, written, groups⟩, by decide, by decide⟩

end CardShell.Selection
