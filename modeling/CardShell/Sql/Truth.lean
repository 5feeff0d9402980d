/-!
# Three-valued logic

A condition on values that may be null is true, false or undecided, which is
written `none`.  A conjunction is false as soon as one part is, and true only
when both are; a disjunction is dual to it.
-/

namespace CardShell.Sql

/-- True, false or undecided. -/
abbrev Truth :=
  Option Bool

namespace Truth

/-- Conjunction. -/
def and : Truth → Truth → Truth
  | some false, _ => some false
  | _, some false => some false
  | some true, some true => some true
  | _, _ => none

/-- Disjunction. -/
def or : Truth → Truth → Truth
  | some true, _ => some true
  | _, some true => some true
  | some false, some false => some false
  | _, _ => none

/-- Negation. -/
def not : Truth → Truth
  | some value => some (!value)
  | none => none

/-- Whether some of several is true, read as one disjunction. -/
def any (truths : List Truth) : Truth :=
  truths.foldr or (some false)

theorem and_eq_true_iff {left right : Truth} :
    and left right = some true ↔ left = some true ∧ right = some true := by
  rcases left with _ | _ | _ <;> rcases right with _ | _ | _ <;> simp [and]

end Truth

end CardShell.Sql
