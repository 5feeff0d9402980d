/-!
# Outcomes of several steps

An outcome that is made in several steps succeeds exactly when each of them does.  With
these equivalences a success is taken apart one step at a time.
-/

namespace CardShell.Except

variable {ε ε' α β γ : Type}

/-- The failure of an outcome that is one. -/
def error? : Except ε α → Option ε
  | .ok _ => none
  | .error failure => some failure

theorem error?_eq_none_iff {outcome : Except ε α} :
    error? outcome = none ↔ ∃ value, outcome = .ok value := by
  cases outcome with
  | error failure => simp [error?]
  | ok value => simp [error?]

theorem bind_eq_ok_iff {outcome : Except ε α} {next : α → Except ε β} {value : β} :
    outcome.bind next = .ok value ↔ ∃ middle, outcome = .ok middle ∧ next middle = .ok value := by
  cases outcome with
  | error failure => simp [Except.bind]
  | ok middle => simp [Except.bind]

theorem map_eq_ok_iff {outcome : Except ε α} {change : α → β} {value : β} :
    outcome.map change = .ok value ↔ ∃ before, outcome = .ok before ∧ change before = value := by
  cases outcome with
  | error failure => simp [Except.map]
  | ok before => simp [Except.map]

/-- Other words for a failure do not make a success. -/
theorem mapError_eq_ok_iff {outcome : Except ε α} {change : ε → ε'} {value : α} :
    outcome.mapError change = .ok value ↔ outcome = .ok value := by
  cases outcome with
  | error failure => exact iff_of_false nofun nofun
  | ok before =>
      constructor
      · rintro ⟨⟩
        rfl
      · rintro ⟨⟩
        rfl

/-- Values that succeed alike succeed alike in a list. -/
theorem mapM_eq_ok_of_imp {first second : α → Except ε β} {inputs : List α} {values : List β}
    (alike : ∀ input value, first input = .ok value → second input = .ok value)
    (ok : inputs.mapM first = .ok values) : inputs.mapM second = .ok values := by
  induction inputs generalizing values with
  | nil => exact ok
  | cons input inputs later =>
      rw [List.mapM_cons] at ok ⊢
      rcases bind_eq_ok_iff.mp ok with ⟨value, head, ok⟩
      rcases bind_eq_ok_iff.mp ok with ⟨others, tail, same⟩
      rw [alike input value head, later tail]
      exact same

theorem map_map (first : α → β) (second : β → γ) (outcome : Except ε α) :
    (outcome.map first).map second = outcome.map fun value => second (first value) :=
  Functor.map_map first second outcome

end CardShell.Except
