import CardShell.Proofs.Sql.Joining
import CardShell.Proofs.Sql.Limit

/-!
# Texts without limits

The clauses of a selection are texts of their own, and the statement joins them by
keywords and commas.  When no part of it spells a limit, neither does the statement:
joining neither makes a lexeme out of two nor splits one.  Expressions, columns and the
terms of orders never spell a limit.
-/

namespace CardShell.Sql

instance (lexeme : Lexeme) (keyword : Keyword) : Decidable (lexeme.Is keyword) :=
  inferInstanceAs (Decidable (_ = _))

/-- A text without mistakes that does not spell the keyword of a limit. -/
def LimitFree (text : List Char) : Prop :=
  ∀ lexeme ∈ lexemes text, lexeme.token ≠ .illegal ∧ ¬lexeme.Is .limit

instance (text : List Char) : Decidable (LimitFree text) :=
  inferInstanceAs (Decidable (∀ lexeme ∈ lexemes text, _))

/-- A statement without the keyword of a limit has no limit. -/
theorem LimitFree.limit_eq_none {sql : String} (free : LimitFree sql.toList)
    {statement : Statement ColumnName} (ok : read sql = .ok statement) :
    statement.limit = none := by
  rcases read_eq_ok_iff_read?.mp ok with ⟨-, read⟩
  rcases Option.bind_eq_some_iff.mp read with ⟨reader, read, ends⟩
  have settled := Reader.settled_start.read? read
  have early := Reader.isLast_read? (fun lexeme member => (free lexeme member).2) rfl read
  exact (Reader.limit_of_finish? ends).trans (Reader.Settled.limit_eq_none settled early)

theorem LimitFree.legal {text : List Char} (free : LimitFree text) : Legal text :=
  fun lexeme member => (free lexeme member).1

/-! ## Joining -/

theorem LimitFree.append {left right : List Char} (first : LimitFree left)
    (second : LimitFree right) (apart : Apart left right) : LimitFree (left ++ right) := by
  rw [LimitFree, lexemes_append apart, List.forall_mem_append, List.forall_mem_map]
  exact ⟨first, second⟩

theorem LimitFree.join {left connective right : List Char} (first : LimitFree left)
    (between : Connective connective) (free : LimitFree connective) (second : LimitFree right) :
    LimitFree (left ++ (connective ++ right)) :=
  first.append (free.append second (between.apart right)) (between.apart_append first.legal right)

theorem LimitFree.parenthesized {inner : List Char} (free : LimitFree ('"' :: inner)) :
    LimitFree ('(' :: ('"' :: inner ++ [')'])) := by
  rw [LimitFree, lexemes_parenthesized free.legal, List.forall_mem_append, List.forall_mem_cons,
    List.forall_mem_map, List.forall_mem_singleton]
  exact ⟨⟨⟨nofun, nofun⟩, free⟩, nofun, nofun⟩

/-! ## What is free of limits -/

/-- A keyword other than that of a limit is neither a mistake nor that of a limit. -/
theorem Lexeme.Is.limitFree {sign : Lexeme} {keyword : Keyword} (is : sign.Is keyword)
    (other : keyword ≠ .limit) : sign.token ≠ .illegal ∧ ¬sign.Is .limit := by
  rcases Token.exists_word_of_keyword? is with ⟨word, token⟩
  constructor
  · rw [token]
    nofun
  · exact fun limit => other (Option.some.inj (is.symm.trans limit))

/-- A column by which rows are ordered, perhaps with the direction behind it. -/
inductive SpellsOrderTerm : List Lexeme → OrderTerm ColumnName → Prop
  | bare {lexemes : List Lexeme} {column : ColumnName} : SpellsColumn lexemes column →
      SpellsOrderTerm lexemes ⟨column, false⟩
  | ascending {lexemes : List Lexeme} {sign : Lexeme} {column : ColumnName} :
      SpellsColumn lexemes column → sign.Is .asc →
      SpellsOrderTerm (lexemes ++ [sign]) ⟨column, false⟩
  | descending {lexemes : List Lexeme} {sign : Lexeme} {column : ColumnName} :
      SpellsColumn lexemes column → sign.Is .desc →
      SpellsOrderTerm (lexemes ++ [sign]) ⟨column, true⟩

/-- No lexeme of a condition spells a limit. -/
theorem Pending.limitFree_of_read? {lexemes : List Lexeme} {pending next : Pending}
    (ok : pending.read? lexemes = some next) :
    ∀ lexeme ∈ lexemes, lexeme.token ≠ .illegal ∧ ¬lexeme.Is .limit := by
  intro lexeme member
  rcases exists_step?_of_read? ok lexeme member with ⟨before, after, step⟩
  refine ⟨ne_illegal_of_step? step, fun limit => ?_⟩
  rw [before.step?_limit limit] at step
  contradiction

section Spelled

variable {lexemes : List Lexeme}

theorem Expression.limitFree {condition : Condition ColumnName}
    (expression : Expression .disjunction lexemes condition) :
    ∀ lexeme ∈ lexemes, lexeme.token ≠ .illegal ∧ ¬lexeme.Is .limit := by
  rcases expression.exists_read? with ⟨pending, read, -⟩
  exact Pending.limitFree_of_read? read

theorem SpellsColumn.limitFree {column : ColumnName} (spells : SpellsColumn lexemes column) :
    ∀ lexeme ∈ lexemes, lexeme.token ≠ .illegal ∧ ¬lexeme.Is .limit :=
  Pending.limitFree_of_read? (spells.read? .empty [])

theorem SpellsOrderTerm.limitFree {term : OrderTerm ColumnName}
    (spells : SpellsOrderTerm lexemes term) :
    ∀ lexeme ∈ lexemes, lexeme.token ≠ .illegal ∧ ¬lexeme.Is .limit := by
  cases spells with
  | bare column => exact column.limitFree
  | ascending column asc =>
      exact List.forall_mem_append.mpr
        ⟨column.limitFree, List.forall_mem_singleton.mpr (asc.limitFree (by decide))⟩
  | descending column desc =>
      exact List.forall_mem_append.mpr
        ⟨column.limitFree, List.forall_mem_singleton.mpr (desc.limitFree (by decide))⟩

end Spelled

end CardShell.Sql
