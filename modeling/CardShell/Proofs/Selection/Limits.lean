import CardShell.Proofs.Instruction.RoundTrip
import CardShell.Proofs.Instruction.Sections
import CardShell.Proofs.Selection.Clauses
import CardShell.Proofs.Sql.Parts

/-!
# Limits from the numeral to the statement

A limit is read as the exact value of its numeral or refused, whatever the length of the
numeral, and a value that is read is one that fits in a signed 64-bit word.  The
statement of a selection ends in the digits of its limit.  Filters, groupings and
orderings stand in it as they were written, and where none of them spells a limit of its
own the engine is asked for exactly the limit that was written, or for none.
-/

namespace CardShell

namespace Segment

/-- A text between bars whose tag is that of limits. -/
theorem read_limit {tag content : List Char} (limit : Text.trim tag = ['l']) :
    read (tag ++ ':' :: content) =
      (readLimit (Text.trim content)).map .clause := by
  have missing : ':' ∉ tag := by
    obtain ⟨before, after, blankBefore, blankAfter, shape⟩ := Text.exists_eq_append_trim tag
    have visible : Text.isBlank ':' = false := by decide
    rw [shape, limit]
    simp [blankBefore.not_mem visible, blankAfter.not_mem visible]
  rw [read_of_colon missing, limit, ofParts]

/-- The numerals in the range of limits, by the value that is read. -/
theorem readLimit_of_numeral {content : List Char} {value : Int}
    (numeral : Text.Numeral content value) (notNegative : 0 ≤ value)
    (fits : value ≤ Text.maxInt64) : readLimit content = .ok (.limit value.toNat) := by
  have same : (value.toNat : Int) = value := Int.toNat_of_nonneg notNegative
  rw [← same] at numeral fits
  exact readLimit_eq_ok_iff.mpr ⟨_, limitNumeral_iff.mpr ⟨numeral, fits⟩, rfl⟩

theorem readLimit_of_no_numeral {content : List Char}
    (none : ∀ value, Text.Numeral content value → ¬(0 ≤ value ∧ value ≤ Text.maxInt64)) :
    readLimit content = .error (.invalidLimit (String.ofList content)) := by
  refine readLimit_eq_error_iff.mpr ⟨fun count numeral => ?_, rfl⟩
  rcases limitNumeral_iff.mp numeral with ⟨numeral, fits⟩
  exact none count numeral ⟨Int.natCast_nonneg count, fits⟩

end Segment

namespace Instruction

/-- Joined texts hold the characters of each of them. -/
theorem mem_intercalate {separator part : List Char} {parts : List (List Char)}
    {character : Char} (inside : character ∈ part) (member : part ∈ parts) :
    character ∈ separator.intercalate parts := by
  induction parts with
  | nil => contradiction
  | cons first parts later =>
      rcases List.mem_cons.mp member with rfl | member
      · cases parts <;> simp [List.intercalate_cons_cons, inside]
      · rw [List.intercalate_cons_of_ne_nil (List.ne_nil_of_mem member)]
        exact List.mem_append_right _ (later member)

/-- An entity with texts between bars behind it is read text by text. -/
theorem read_intercalate {entity : String} {texts : List String}
    (name : isEntityName entity.toList = true) (noBars : ∀ text ∈ texts, '|' ∉ text.toList)
    (visible : ∃ text ∈ texts, ':' ∈ text.toList) :
    read (entity ++ " " ++ String.intercalate "|" texts) =
      (Segment.readAll (texts.map String.toList)).map fun clauses => ⟨entity, clauses⟩ := by
  rcases visible with ⟨text, member, colon⟩
  have notNil : texts.map String.toList ≠ [] := by
    intro nil
    rw [List.map_eq_nil_iff.mp nil] at member
    contradiction
  have parts : (String.intercalate "|" texts).toList.splitOn '|' = texts.map String.toList := by
    rw [String.toList_intercalate]
    apply List.splitOn_intercalate '|' _ notNil
    intro part found
    rcases List.mem_map.mp found with ⟨text, member, rfl⟩
    exact noBars text member
  have notBlank : ¬Text.Blank (String.intercalate "|" texts).toList := by
    intro blank
    have inside : ':' ∈ (String.intercalate "|" texts).toList := by
      rw [String.toList_intercalate]
      exact mem_intercalate colon (List.mem_map_of_mem member)
    exact absurd (blank ':' inside) (by decide)
  rw [read_section name (by simp) notBlank, parts, String.ofList_toList]

/-- Behind texts that are read, the text of a limit decides what comes of the rest. -/
theorem result_read_limit {entity tag content : String} {before after : List String}
    (name : isEntityName entity.toList = true)
    (noBars : ∀ text ∈ before ++ tag :: content :: after, '|' ∉ text.toList)
    (limit : Text.trim tag.toList = ['l']) {earlier : List Clause}
    (front : (Segment.readAll (before.map String.toList)).result = .ok earlier) :
    (read (entity ++ " " ++
        String.intercalate "|" (before ++ (tag ++ ":" ++ content) :: after))).result =
      match Segment.readLimit (Text.trim content.toList) with
      | .error failure => .error failure
      | .ok clause => (Segment.readAll (after.map String.toList)).result.map fun later =>
          ⟨entity, earlier ++ clause :: later⟩ := by
  have written : (tag ++ ":" ++ content).toList = tag.toList ++ ':' :: content.toList := by
    simp
  have noBar : ∀ text ∈ before ++ (tag ++ ":" ++ content) :: after, '|' ∉ text.toList := by
    simp only [List.mem_append, List.mem_cons] at noBars
    intro text member
    rcases List.mem_append.mp member with inFront | behind
    · exact noBars text (.inl inFront)
    · rcases List.mem_cons.mp behind with rfl | behind
      · simp [noBars]
      · exact noBars text (.inr (.inr (.inr behind)))
  have visible : ∃ text ∈ before ++ (tag ++ ":" ++ content) :: after, ':' ∈ text.toList :=
    ⟨tag ++ ":" ++ content, by simp, by simp⟩
  rw [read_intercalate name noBar visible, List.map_append, List.map_cons, written,
    Segment.readAll_append, Noted.result_map, Noted.bind, front]
  simp only [Segment.readAll, Segment.read_limit limit]
  cases Segment.readLimit (Text.trim content.toList) with
  | error failure => rfl
  | ok clause =>
      simp only [Except.map, Noted.result_after, Noted.result_map]
      cases (Segment.readAll (after.map String.toList)).result <;> rfl

end Instruction

/-- The last limit is one of the clauses. -/
theorem Clause.mem_of_lastLimit? {clauses : List Clause} {count : Nat}
    (last : lastLimit? clauses = some count) : .limit count ∈ clauses := by
  rcases List.mem_filterMap.mp (List.mem_of_getLast? last) with ⟨clause, member, counted⟩
  cases clause with
  | limit other =>
      cases counted
      exact member
  | _ => contradiction

/-- The limit of a selection that was asked for in writing fits in a signed 64-bit
word. -/
theorem Catalog.limit_of_selectInstruction {catalog : Catalog} {input : String}
    {instruction : Instruction} {selection : Selection} {count : Nat}
    (read : (Instruction.read input).result = .ok instruction)
    (selected : catalog.selectInstruction instruction = .ok selection)
    (limited : selection.limit = some count) : (count : Int) ≤ Text.maxInt64 := by
  cases known : catalog.get? instruction.entity with
  | none =>
      rw [selectInstruction, select_of_get?_eq_none known] at selected
      contradiction
  | some entity =>
      rw [selectInstruction, select_of_get? known] at selected
      cases selected
      have member := Clause.mem_of_lastLimit? limited
      exact (Instruction.canonical_of_read read).2 _ member

namespace Selection

/-- The statement of a selection with a limit ends in it. -/
theorem sql_of_limit {selection : Selection} {count : Nat}
    (limited : selection.limit = some count) :
    selection.sql =
      ({ selection with limit := none } : Selection).sql ++ " LIMIT " ++ Text.ofNat count := by
  have append (text limit : String) : text ++ limit = text ++ "" ++ limit := by
    rw [String.append_empty]
  rw [String.append_assoc]
  unfold sql
  rw [limited]
  exact append _ _

/-- The engine reads the limit of a selection as the one that it is. -/
theorem limit_of_read_sql {selection : Selection} {count : Nat}
    (limited : selection.limit = some count) {statement : Sql.Statement Sql.ColumnName}
    (ok : Sql.read selection.sql = .ok statement) : statement.limit = some count := by
  rw [sql_of_limit limited] at ok
  rcases Sql.read_limit_iff.mp ok with ⟨before, -, -, rfl⟩
  rfl

/-! ## Limits in other clauses -/

open Sql (Connective LimitFree)

theorem limitFree_filterSql {table condition : String}
    (free : LimitFree (qualified table condition).toList) :
    LimitFree (filterSql table condition).toList := by
  rcases exists_toList_qualified table condition with ⟨inner, shape⟩
  rw [toList_filterSql, shape]
  exact (shape ▸ free).parenthesized

theorem limitFree_intercalate {connective : String} (between : Connective connective.toList)
    (connectiveFree : LimitFree connective.toList) {items : List String} (notNil : items ≠ [])
    (free : ∀ item ∈ items, LimitFree item.toList) :
    LimitFree (connective.intercalate items).toList := by
  cases items with
  | nil => contradiction
  | cons item items =>
      rcases List.forall_mem_cons.mp free with ⟨first, others⟩
      apply Sql.intercalate_induction _ first
      exact fun left leftFree other member =>
        leftFree.join between connectiveFree (others other member)

/-- No filter, grouping or ordering of a selection spells a limit. -/
structure BringsNoLimit (selection : Selection) : Prop where
  filters : ∀ condition ∈ selection.filters,
    LimitFree (qualified selection.entity.name condition).toList
  groupings : ∀ terms ∈ selection.groupings, LimitFree terms.toList
  orderings : ∀ terms ∈ selection.orderings, LimitFree terms.toList

namespace BringsNoLimit

variable {selection : Selection}

/-- Nothing in front of the limit of the selection spells one. -/
theorem limitFree_sql (brings : selection.BringsNoLimit) :
    LimitFree ({ selection with limit := none } : Selection).sql.toList := by
  have comma : LimitFree ", ".toList := by
    decide
  have connective : LimitFree " AND ".toList := by
    decide +kernel
  have filters : ∀ item ∈ selection.filters.map (filterSql selection.entity.name),
      LimitFree item.toList :=
    List.forall_mem_map.mpr fun condition member =>
      limitFree_filterSql (brings.filters condition member)
  apply Sql.SpellsSelect.limitFree Sql.kind_limitFree Sql.kind_limitFree Sql.kind_limitFree
  apply spells_sql Sql.kind_limitFree Sql.kind_limitFree Sql.kind_limitFree rfl
  · intro notNil
    exact limitFree_intercalate Sql.connective_and connective
      (mt List.map_eq_nil_iff.mp notNil) filters
  · exact fun notNil =>
      limitFree_intercalate Sql.connective_comma comma notNil brings.groupings
  · exact fun notNil =>
      limitFree_intercalate Sql.connective_comma comma notNil brings.orderings

/-- The engine reads the limit of the selection and no other. -/
theorem limit_eq (brings : selection.BringsNoLimit) {statement : Sql.Statement Sql.ColumnName}
    (ok : Sql.read selection.sql = .ok statement) : statement.limit = selection.limit := by
  cases limited : selection.limit with
  | some count => exact limit_of_read_sql limited ok
  | none =>
      have same : ({ selection with limit := none } : Selection) = selection := by
        rw [← limited]
      exact (same ▸ brings.limitFree_sql).limit_eq_none ok

end BringsNoLimit

end Selection

end CardShell
