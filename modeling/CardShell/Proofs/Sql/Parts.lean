import CardShell.Proofs.Sql.Filters
import CardShell.Proofs.Sql.LimitFree

/-!
# The parts of a statement

In front of its limit a statement has a table, a condition, columns by which its rows are
grouped and terms by which they are ordered, in this order, and all but the table may be
missing.  The statement of a selection is made of exactly these parts, of whatever kinds
its filters, groupings and orderings are; when they are whole conditions, columns and order
terms, a limit may follow.
-/

namespace CardShell.Sql

/-! ## The grammar -/

/-- Items with commas between them. -/
inductive Separated (Item : List Lexeme → Prop) : List Lexeme → Prop
  | first {lexemes : List Lexeme} : Item lexemes → Separated Item lexemes
  | next {lexemes others : List Lexeme} {comma : Lexeme} : Separated Item lexemes →
      comma.token = .comma → Item others → Separated Item (lexemes ++ comma :: others)

/-- A part that may be missing: its keywords, and what they introduce. -/
inductive SpellsPart (keywords : List Keyword) (Body : List Lexeme → Prop) : List Lexeme → Prop
  | absent : SpellsPart keywords Body []
  | present {signs lexemes : List Lexeme} : List.Forall₂ Lexeme.Is signs keywords →
      Body lexemes → SpellsPart keywords Body (signs ++ lexemes)

/-- A statement on one table, without a limit. -/
inductive SpellsSelect (Filter Groups Orders : List Lexeme → Prop) : List Lexeme → Prop
  | parts {select star source table : Lexeme} {name : String}
      {filter groups orders : List Lexeme} :
      select.Is .select → star.token = .star → source.Is .source →
      table.token.name? = some name → SpellsPart [.filter] Filter filter →
      SpellsPart [.group, .terms] Groups groups → SpellsPart [.order, .terms] Orders orders →
      SpellsSelect Filter Groups Orders
        ([select, star, source, table] ++ filter ++ groups ++ orders)

/-- A whole condition. -/
def IsCondition (lexemes : List Lexeme) : Prop :=
  ∃ condition, Expression .disjunction lexemes condition

/-- A column. -/
def IsColumn (lexemes : List Lexeme) : Prop :=
  ∃ column, SpellsColumn lexemes column

/-- A column with a direction. -/
def IsOrderTerm (lexemes : List Lexeme) : Prop :=
  ∃ term, SpellsOrderTerm lexemes term

/-- A statement without a limit, behind which a limit may stand. -/
def Unlimited (sql : String) : Prop :=
  SpellsSelect IsCondition (Separated IsColumn) (Separated IsOrderTerm) (lexemes sql.toList)

/-! ## Kinds of parts -/

/-- What may be a part of a statement wherever it stands, and spells neither a mistake nor a
limit. -/
structure Kind (Body : List Lexeme → Prop) : Prop where
  moved {lexemes : List Lexeme} (distance : Nat) :
    Body lexemes → Body (lexemes.map (Lexeme.moved distance))
  limitFree {lexemes : List Lexeme} :
    Body lexemes → ∀ lexeme ∈ lexemes, lexeme.token ≠ .illegal ∧ ¬lexeme.Is .limit

/-- Where an order term stands does not matter. -/
theorem SpellsOrderTerm.moved {lexemes : List Lexeme} {term : OrderTerm ColumnName}
    (spells : SpellsOrderTerm lexemes term) (distance : Nat) :
    IsOrderTerm (lexemes.map (Lexeme.moved distance)) := by
  cases spells with
  | bare column => exact ⟨_, .bare (column.moved distance)⟩
  | ascending column asc =>
      rw [List.map_append, List.map_singleton]
      exact ⟨_, .ascending (column.moved distance) asc⟩
  | descending column desc =>
      rw [List.map_append, List.map_singleton]
      exact ⟨_, .descending (column.moved distance) desc⟩

theorem kind_condition : Kind IsCondition where
  moved distance := fun ⟨_, expression⟩ => ⟨_, expression.moved distance⟩
  limitFree := fun ⟨_, expression⟩ => expression.limitFree

theorem kind_column : Kind IsColumn where
  moved distance := fun ⟨_, column⟩ => ⟨_, column.moved distance⟩
  limitFree := fun ⟨_, column⟩ => column.limitFree

theorem kind_orderTerm : Kind IsOrderTerm where
  moved distance := fun ⟨_, term⟩ => term.moved distance
  limitFree := fun ⟨_, term⟩ => term.limitFree

/-- Lexemes of which none is a mistake or spells a limit, whatever else they are. -/
theorem kind_limitFree :
    Kind fun lexemes => ∀ lexeme ∈ lexemes, lexeme.token ≠ .illegal ∧ ¬lexeme.Is .limit where
  moved _ free := List.forall_mem_map.mpr free
  limitFree free := free

namespace Kind

variable {Item Body : List Lexeme → Prop}

theorem separated (kind : Kind Item) : Kind (Separated Item) where
  moved distance separated := by
    induction separated with
    | first item => exact .first (kind.moved distance item)
    | next _ comma item earlier =>
        rw [List.map_append, List.map_cons]
        exact .next earlier comma (kind.moved distance item)
  limitFree separated := by
    induction separated with
    | first item => exact kind.limitFree item
    | @next lexemes others comma _ is item earlier =>
        have sign : comma.token ≠ .illegal ∧ ¬comma.Is .limit := by
          rw [Lexeme.Is, is]
          decide
        rw [List.forall_mem_append, List.forall_mem_cons]
        exact ⟨earlier, sign, kind.limitFree item⟩

/-- No keyword of another part is a mistake or that of a limit. -/
theorem limitFree_signs {signs : List Lexeme} {keywords : List Keyword}
    (are : List.Forall₂ Lexeme.Is signs keywords) (others : .limit ∉ keywords) :
    ∀ sign ∈ signs, sign.token ≠ .illegal ∧ ¬sign.Is .limit := by
  induction are with
  | nil => simp
  | cons is _ later =>
      rw [List.mem_cons, not_or] at others
      rcases others with ⟨other, others⟩
      exact List.forall_mem_cons.mpr ⟨is.limitFree (Ne.symm other), later others⟩

theorem part (kind : Kind Body) {keywords : List Keyword} (others : .limit ∉ keywords) :
    Kind (SpellsPart keywords Body) where
  moved distance spelled := by
    cases spelled with
    | absent => exact .absent
    | present signs body =>
        rw [List.map_append]
        exact .present (List.forall₂_map_left_iff.mpr signs) (kind.moved distance body)
  limitFree spelled := by
    cases spelled with
    | absent => simp
    | present signs body =>
        exact List.forall_mem_append.mpr ⟨limitFree_signs signs others, kind.limitFree body⟩

end Kind

section Select

variable {Filter Groups Orders : List Lexeme → Prop}

/-- A statement of limit-free parts spells no limit. -/
theorem SpellsSelect.limitFree (filters : Kind Filter) (groupings : Kind Groups)
    (orderings : Kind Orders) {lexemes : List Lexeme}
    (spells : SpellsSelect Filter Groups Orders lexemes) :
    ∀ lexeme ∈ lexemes, lexeme.token ≠ .illegal ∧ ¬lexeme.Is .limit := by
  cases spells with
  | @parts select star source table name filter groups orders select' star' source' table' filter'
      groups' orders' =>
      have starFree : star.token ≠ .illegal ∧ ¬star.Is .limit := by
        rw [Lexeme.Is, star']
        decide
      have tableFree : table.token ≠ .illegal ∧ ¬table.Is .limit := by
        constructor
        · intro illegal
          rw [illegal] at table'
          contradiction
        · intro limit
          rw [Token.name?_eq_none_of_keyword? limit (by decide)] at table'
          contradiction
      simp only [List.forall_mem_append, List.forall_mem_cons]
      exact ⟨⟨⟨⟨select'.limitFree (by decide), starFree, source'.limitFree (by decide), tableFree,
          List.forall_mem_nil _⟩,
        (filters.part (by decide)).limitFree filter'⟩,
        (groupings.part (by decide)).limitFree groups'⟩,
        (orderings.part (by decide)).limitFree orders'⟩

end Select

/-- Where a limit may stand there is none yet. -/
theorem Unlimited.limitFree {sql : String} (unlimited : Unlimited sql) : LimitFree sql.toList :=
  SpellsSelect.limitFree kind_condition kind_column.separated kind_orderTerm.separated unlimited

/-! ## Texts -/

/-- Texts of items are separated by the commas between them. -/
theorem separated_intercalate {Item : List Lexeme → Prop} (kind : Kind Item)
    {items : List String} (notNil : items ≠ []) (all : ∀ item ∈ items, Item (lexemes item.toList)) :
    Separated Item (lexemes (String.intercalate ", " items).toList) := by
  cases items with
  | nil => contradiction
  | cons first others =>
      rcases List.forall_mem_cons.mp all with ⟨firstItem, otherItems⟩
      apply intercalate_induction (motive := fun text => Separated Item (lexemes text))
      · intro left separated other member
        have legal : Legal left :=
          fun lexeme among => (kind.separated.limitFree separated lexeme among).1
        have comma : lexemes ", ".toList = [⟨.comma, ",", 0⟩] := by
          rfl
        rw [connective_comma.lexemes_join legal, comma, List.singleton_append, List.map_cons,
          Lexeme.map_moved_map_moved]
        exact .next separated rfl (kind.moved _ (otherItems other member))
      · exact .first firstItem

end CardShell.Sql

namespace CardShell.Selection

open Sql (Connective Keyword Kind Legal LimitFree SpellsPart SpellsSelect)

/-- A part of the statement of a selection is its keywords with its joined items, if there
are any, and continues nothing that stands in front of it. -/
theorem exists_part {keyword separator : String} {items : List String}
    {Body : List Sql.Lexeme → Prop} {keywords : List Keyword} (kind : Kind Body)
    (begins : Connective keyword.toList)
    (signs : List.Forall₂ Sql.Lexeme.Is (Sql.lexemes keyword.toList) keywords)
    (body : items ≠ [] → Body (Sql.lexemes (String.intercalate separator items).toList))
    {left : List Char} (legal : Legal left) :
    ∃ part, SpellsPart keywords Body part ∧
      Sql.lexemes (left ++ (partSql keyword separator items).toList) =
        Sql.lexemes left ++ part ∧
      Legal (left ++ (partSql keyword separator items).toList) := by
  cases items with
  | nil =>
      have missing : left ++ (partSql keyword separator []).toList = left := by
        simp [partSql]
      rw [missing]
      exact ⟨[], .absent, (List.append_nil _).symm, legal⟩
  | cons item items =>
      have spelled := body (List.cons_ne_nil item items)
      have legalBody : Legal (String.intercalate separator (item :: items)).toList :=
        fun lexeme member => (kind.limitFree spelled lexeme member).1
      rw [partSql, List.isEmpty_cons, if_neg Bool.false_ne_true, String.toList_append,
        begins.lexemes_join legal, List.map_append, Sql.Lexeme.map_moved_map_moved]
      refine ⟨_, .present ?_ (kind.moved _ spelled), rfl, begins.legal_join legal legalBody⟩
      exact List.forall₂_map_left_iff.mpr signs

theorem legal_wholeTable (name : List Char) :
    Legal ("SELECT * FROM ".toList ++ Text.quoteName name) := by
  have opening : ∀ lexeme ∈ Sql.opening, lexeme.token ≠ .illegal := by
    decide
  rw [Legal, Sql.lexemes_wholeTable, List.forall_mem_append, List.forall_mem_singleton]
  exact ⟨opening, by simp⟩

/-- The statement of a selection without a limit has its table and its parts, of whatever
kinds they are. -/
theorem spells_sql {Filter Groups Orders : List Sql.Lexeme → Prop} (filterKind : Kind Filter)
    (groupKind : Kind Groups) (orderKind : Kind Orders) {selection : Selection}
    (none : selection.limit = none)
    (filters : selection.filters ≠ [] → Filter (Sql.lexemes (String.intercalate " AND "
      (selection.filters.map (filterSql selection.entity.name))).toList))
    (groupings : selection.groupings ≠ [] →
      Groups (Sql.lexemes (String.intercalate ", " selection.groupings).toList))
    (orderings : selection.orderings ≠ [] →
      Orders (Sql.lexemes (String.intercalate ", " selection.orderings).toList)) :
    SpellsSelect Filter Groups Orders (Sql.lexemes selection.sql.toList) := by
  have filtering : List.Forall₂ Sql.Lexeme.Is (Sql.lexemes " WHERE ".toList) [.filter] := by
    decide +kernel
  have grouping : List.Forall₂ Sql.Lexeme.Is (Sql.lexemes " GROUP BY ".toList)
      [.group, .terms] := by
    decide +kernel
  have ordering : List.Forall₂ Sql.Lexeme.Is (Sql.lexemes " ORDER BY ".toList)
      [.order, .terms] := by
    decide +kernel
  have quoted : (Text.quoteString selection.entity.name).toList =
      Text.quoteName selection.entity.name.toList :=
    String.toList_ofList
  rcases exists_part filterKind Sql.connective_filter filtering
    (fun notNil => filters fun nil => notNil (List.map_eq_nil_iff.mpr nil))
    (legal_wholeTable selection.entity.name.toList) with ⟨filter, spellsFilter, cut, legal⟩
  rcases exists_part groupKind Sql.connective_group grouping groupings legal with
    ⟨groups, spellsGroups, cutGroups, legal⟩
  rcases exists_part orderKind Sql.connective_order ordering orderings legal with
    ⟨orders, spellsOrders, cutOrders, -⟩
  have text : selection.sql.toList =
      "SELECT * FROM ".toList ++ Text.quoteName selection.entity.name.toList ++
        (partSql " WHERE " " AND "
          (selection.filters.map (filterSql selection.entity.name))).toList ++
        (partSql " GROUP BY " ", " selection.groupings).toList ++
        (partSql " ORDER BY " ", " selection.orderings).toList := by
    unfold sql
    rw [none]
    simp only [String.toList_append, quoted, String.append_empty]
  have name : String.ofList selection.entity.name.toList = selection.entity.name :=
    String.ofList_toList
  have whole : Sql.lexemes selection.sql.toList =
      [⟨.word "SELECT", "SELECT", 0⟩, ⟨.star, "*", 7⟩, ⟨.word "FROM", "FROM", 9⟩,
        ⟨.quoted selection.entity.name,
          String.ofList (Text.quoteName selection.entity.name.toList), 14⟩] ++
        filter ++ groups ++ orders := by
    rw [text, cutOrders, cutGroups, cut, Sql.lexemes_wholeTable, name]
    rfl
  have select : Sql.Lexeme.Is ⟨.word "SELECT", "SELECT", 0⟩ .select := Sql.keyword?_select
  have source : Sql.Lexeme.Is ⟨.word "FROM", "FROM", 9⟩ .source := Sql.keyword?_from
  rw [whole]
  exact .parts select rfl source rfl spellsFilter spellsGroups spellsOrders

end CardShell.Selection
