/-!
# Pattern matching

In a pattern `%` stands for any run of characters and `_` for any one character;
every other character stands for itself, ASCII letters in either case.  The
whole text has to match.
-/

namespace CardShell.Sql

/-- A list and all its ends, from the longest to the empty one. -/
def ends {α : Type} : List α → List (List α)
  | [] => [[]]
  | first :: rest => (first :: rest) :: ends rest

/-- Whether a text matches a pattern. -/
def like : List Char → List Char → Bool
  | [], text => text.isEmpty
  | '%' :: pattern, text => (ends text).any (like pattern)
  | '_' :: pattern, text =>
      match text with
      | [] => false
      | _ :: rest => like pattern rest
  | character :: pattern, text =>
      match text with
      | [] => false
      | first :: rest => character.toLower == first.toLower && like pattern rest

theorem mem_ends_iff {α : Type} {text suffix : List α} :
    suffix ∈ ends text ↔ ∃ run, text = run ++ suffix := by
  induction text with
  | nil => simp [ends]
  | cons first rest ih =>
      simp only [ends, List.mem_cons, ih]
      constructor
      · rintro (rfl | ⟨run, rfl⟩)
        · exact ⟨[], rfl⟩
        · exact ⟨first :: run, rfl⟩
      · rintro ⟨run, shape⟩
        cases run with
        | nil => exact Or.inl shape.symm
        | cons other run =>
            simp only [List.cons_append, List.cons.injEq] at shape
            exact Or.inr ⟨run, shape.2⟩

/-- A leading `%` matches any run of characters. -/
theorem like_percent_iff {pattern text : List Char} :
    like ('%' :: pattern) text = true ↔
      ∃ run rest, text = run ++ rest ∧ like pattern rest = true := by
  simp only [like, List.any_eq_true, mem_ends_iff]
  constructor
  · rintro ⟨rest, ⟨run, shape⟩, found⟩
    exact ⟨run, rest, shape, found⟩
  · rintro ⟨run, rest, shape, found⟩
    exact ⟨rest, ⟨run, shape⟩, found⟩

end CardShell.Sql
