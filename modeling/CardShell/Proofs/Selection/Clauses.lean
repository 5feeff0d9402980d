import CardShell.Instruction.Reader
import CardShell.Selection

/-!
# What clauses mean

A list of clauses says four things: which filters there are, which groupings, which
orderings, each in their order, and which limit comes last.  A selection is made of
exactly these, so two lists make the same selection if and only if they agree on all four.
-/

namespace CardShell

namespace Clause

/-! ## Clauses of one kind -/

/-- The condition of a filter. -/
def condition? : Clause → Option String
  | .filter condition => some condition
  | _ => none

/-- The terms of a grouping. -/
def grouping? : Clause → Option String
  | .groupBy terms => some terms
  | _ => none

/-- The terms of an ordering. -/
def ordering? : Clause → Option String
  | .orderBy terms => some terms
  | _ => none

/-- The count of a limit. -/
def count? : Clause → Option Nat
  | .limit count => some count
  | _ => none

/-- The last of the limits. -/
def lastLimit? (clauses : List Clause) : Option Nat :=
  (clauses.filterMap count?).getLast?

theorem lastLimit?_nil : lastLimit? [] = none :=
  rfl

/-- A limit counts unless a later one follows. -/
theorem lastLimit?_cons (clause : Clause) (clauses : List Clause) :
    lastLimit? (clause :: clauses) = (lastLimit? clauses).or clause.count? := by
  rw [lastLimit?, lastLimit?, List.filterMap_cons]
  cases clause.count? with
  | none => exact Option.or_none.symm
  | some count =>
      simp only [List.getLast?_cons]
      cases (clauses.filterMap count?).getLast? <;> rfl

/-- Two lists have the same filters, groupings and orderings in the same order, and the
same last limit. -/
structure Agree (first second : List Clause) : Prop where
  filters : first.filterMap condition? = second.filterMap condition?
  groupings : first.filterMap grouping? = second.filterMap grouping?
  orderings : first.filterMap ordering? = second.filterMap ordering?
  limit : lastLimit? first = lastLimit? second

/-- Neighbours of different kinds may change places. -/
theorem Agree.swap {first second : Clause} (different : first.tag ≠ second.tag)
    (before after : List Clause) :
    Agree (before ++ first :: second :: after) (before ++ second :: first :: after) := by
  cases first <;> cases second <;> first
    | exact absurd rfl different
    | constructor <;>
        simp [condition?, grouping?, ordering?, lastLimit?, count?, List.filterMap_cons]

/-- A limit in front of another one may be left out. -/
theorem Agree.drop_limit (before middle after : List Clause) (count last : Nat) :
    Agree (before ++ .limit count :: (middle ++ .limit last :: after))
      (before ++ (middle ++ .limit last :: after)) := by
  constructor <;>
    simp [condition?, grouping?, ordering?, lastLimit?, count?, List.filterMap_cons,
      List.getLast?_append, List.getLast?_cons]

end Clause

namespace Selection

/-- The selection that clauses ask for, kind by kind. -/
def ofClauses (entity : Entity) (clauses : List Clause) : Selection where
  entity := entity
  filters := clauses.filterMap Clause.condition?
  groupings := clauses.filterMap Clause.grouping?
  orderings := clauses.filterMap Clause.ordering?
  limit := Clause.lastLimit? clauses

/-- Adding clauses one by one appends those of each kind, except that the last limit
counts. -/
theorem addAll_eq (selection : Selection) (clauses : List Clause) :
    selection.addAll clauses =
      { entity := selection.entity
        filters := selection.filters ++ clauses.filterMap Clause.condition?
        groupings := selection.groupings ++ clauses.filterMap Clause.grouping?
        orderings := selection.orderings ++ clauses.filterMap Clause.ordering?
        limit := (Clause.lastLimit? clauses).or selection.limit } := by
  induction clauses generalizing selection with
  | nil => simp [addAll, Clause.lastLimit?_nil]
  | cons clause clauses later =>
      rw [addAll, List.foldl_cons, ← addAll, later, Clause.lastLimit?_cons, Option.or_assoc]
      cases clause <;>
        simp [add, List.filterMap_cons, Clause.condition?, Clause.grouping?, Clause.ordering?,
          Clause.count?]

theorem addAll_all (entity : Entity) (clauses : List Clause) :
    (all entity).addAll clauses = ofClauses entity clauses := by
  rw [addAll_eq]
  simp [all, ofClauses]

/-- Two lists of clauses make the same selection if and only if they agree. -/
theorem ofClauses_eq_iff {entity : Entity} {first second : List Clause} :
    ofClauses entity first = ofClauses entity second ↔ Clause.Agree first second := by
  constructor
  · intro same
    rw [ofClauses, ofClauses, Selection.mk.injEq] at same
    rcases same with ⟨-, filters, groupings, orderings, limit⟩
    exact ⟨filters, groupings, orderings, limit⟩
  · rintro ⟨filters, groupings, orderings, limit⟩
    rw [ofClauses, ofClauses, filters, groupings, orderings, limit]

end Selection

namespace Catalog

variable {catalog : Catalog} {name : String}

theorem select_of_get? {entity : Entity} (known : catalog.get? name = some entity)
    (clauses : List Clause) :
    catalog.select name clauses = .ok (Selection.ofClauses entity clauses) := by
  rw [select, known, ← Selection.addAll_all]

theorem select_of_get?_eq_none (unknown : catalog.get? name = none) (clauses : List Clause) :
    catalog.select name clauses = .error (.entityNotFound name) := by
  rw [select, unknown]

theorem select_eq_error_iff {clauses : List Clause} {failure : Failure} :
    catalog.select name clauses = .error failure ↔
      catalog.get? name = none ∧ failure = .entityNotFound name := by
  cases known : catalog.get? name with
  | none =>
      rw [select_of_get?_eq_none known, Except.error.injEq]
      simp [eq_comm]
  | some entity => simp [select_of_get? known]

/-- Under a name that stands for nothing no selection can be made, and the failure carries
the name.  Under any other name clauses always make one, and it has their filters,
groupings and orderings in their order and the last of their limits.  So two lists of
clauses make the same selection if and only if they agree on these: clauses of different
kinds may change places, a limit in front of another one may be left out, and what else
differs makes a difference.  An instruction that is read makes a selection in every catalog
that knows its entity. -/
theorem select_depends_on_kinds (catalog : Catalog) :
    (∀ name clauses failure, catalog.select name clauses = .error failure ↔
      catalog.get? name = none ∧ failure = .entityNotFound name) ∧
    (∀ name clauses entity, catalog.get? name = some entity →
      catalog.select name clauses = .ok
        { entity := entity
          filters := clauses.filterMap Clause.condition?
          groupings := clauses.filterMap Clause.grouping?
          orderings := clauses.filterMap Clause.ordering?
          limit := (clauses.filterMap Clause.count?).getLast? }) ∧
    (∀ name entity, catalog.get? name = some entity → ∀ first second, ∃ one other,
      catalog.select name first = .ok one ∧ catalog.select name second = .ok other ∧
        (one = other ↔ Clause.Agree first second) ∧
        (Clause.Agree first second → one.sql = other.sql)) ∧
    (∀ name before after (first second : Clause), first.tag ≠ second.tag →
      catalog.select name (before ++ first :: second :: after) =
        catalog.select name (before ++ second :: first :: after)) ∧
    (∀ name before middle after count last,
      catalog.select name (before ++ .limit count :: (middle ++ .limit last :: after)) =
        catalog.select name (before ++ (middle ++ .limit last :: after))) ∧
    ∀ input instruction, (Instruction.read input).result = .ok instruction →
      catalog.contains instruction.entity = true →
        ∃ selection, catalog.selectInstruction instruction = .ok selection := by
  have alike : ∀ name first second, Clause.Agree first second →
      catalog.select name first = catalog.select name second := by
    intro name first second agree
    cases known : catalog.get? name with
    | none => rw [select_of_get?_eq_none known, select_of_get?_eq_none known]
    | some entity =>
        rw [select_of_get? known, select_of_get? known, Selection.ofClauses_eq_iff.mpr agree]
  refine ⟨fun _ _ _ => select_eq_error_iff, fun _ clauses _ known => select_of_get? known clauses,
    ?_, ?_, ?_, ?_⟩
  · intro name entity known first second
    refine ⟨_, _, select_of_get? known first, select_of_get? known second,
      Selection.ofClauses_eq_iff, ?_⟩
    intro agree
    rw [Selection.ofClauses_eq_iff.mpr agree]
  · intro name before after first second different
    exact alike name _ _ (.swap different before after)
  · intro name before middle after count last
    exact alike name _ _ (.drop_limit before middle after count last)
  · intro input instruction _ known
    rcases Option.isSome_iff_exists.mp known with ⟨entity, found⟩
    exact ⟨_, select_of_get? found instruction.clauses⟩

/-- A limit may move past a filter, and two filters may not change places. -/
theorem filters_keep_their_places :
    let catalog : Catalog := ⟨[⟨"cards", ["id", "name"]⟩]⟩
    (∃ selection,
      catalog.selectInstruction ⟨"Card", [.limit 5, .filter "id>1"]⟩ = .ok selection) ∧
    catalog.select "Card" [.limit 5, .filter "id>1"] =
      catalog.select "Card" [.filter "id>1", .limit 5] ∧
    catalog.select "Card" [.limit 5, .limit 7] = catalog.select "Card" [.limit 7] ∧
    catalog.select "Card" [.filter "id>1", .filter "name is null"] ≠
      catalog.select "Card" [.filter "name is null", .filter "id>1"] ∧
    catalog.select "card" [] = .error (.entityNotFound "card") := by
  intro catalog
  rcases select_depends_on_kinds catalog with ⟨fails, -, decides, swaps, drops, reads⟩
  have read : (Instruction.read " Card  l: 5 |w:id>1").result =
      .ok ⟨"Card", [.limit 5, .filter "id>1"]⟩ := by
    rfl
  rcases decides "Card" ⟨"cards", ["id", "name"]⟩ (by decide)
    [.filter "id>1", .filter "name is null"] [.filter "name is null", .filter "id>1"] with
    ⟨one, other, first, second, equal, -⟩
  refine ⟨reads _ _ read (by decide), swaps "Card" [] [] (.limit 5) (.filter "id>1") (by decide),
    drops "Card" [] [] [] 5 7, ?_, (fails _ _ _).mpr ⟨by decide, rfl⟩⟩
  rw [first, second]
  intro same
  have filters := (equal.mp (Except.ok.inj same)).filters
  exact absurd filters (by decide)

end Catalog

end CardShell
