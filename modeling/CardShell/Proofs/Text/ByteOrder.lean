import CardShell.Text.Bytes

/-!
# The byte order is total

Comparing byte strings at their first difference orders them lexicographically.
The order of texts is the same one on their bytes, so it is total, transitive
and tells different texts apart.
-/

namespace CardShell.Text

theorem compare_byte (first second : UInt8) :
    compare first second =
      if first < second then .lt else if second < first then .gt else .eq := by
  change compareOfLessAndEq first second = _
  rw [compareOfLessAndEq]
  by_cases less : first < second
  · rw [if_pos less, if_pos less]
  · rw [if_neg less, if_neg less]
    by_cases same : first = second
    · rw [if_pos same, if_neg (same ▸ less)]
    · have greater : second < first := by
        rcases UInt8.lt_or_lt_of_ne same with absent | greater
        · exact absurd absent less
        · exact greater
      rw [if_neg same, if_pos greater]

/-- Byte strings are ordered lexicographically. -/
theorem compareBytes_eq_compareLex (left right : List UInt8) :
    compareBytes left right = List.compareLex compare left right := by
  induction left generalizing right with
  | nil => cases right <;> rfl
  | cons first lefts shorter =>
      cases right with
      | nil => rfl
      | cons second rights =>
          rw [compareBytes, List.compareLex_cons_cons, compare_byte, shorter]
          by_cases less : first < second
          · rw [if_pos less, if_pos less]
            rfl
          · by_cases greater : second < first
            · rw [if_neg less, if_neg less, if_pos greater, if_pos greater]
              rfl
            · rw [if_neg less, if_neg less, if_neg greater, if_neg greater]
              rfl

instance : Std.TransCmp compareBytes := by
  have same : compareBytes = List.compareLex compare :=
    funext fun left => funext fun right => compareBytes_eq_compareLex left right
  rw [same]
  infer_instance

instance : Std.TransCmp compareText where
  eq_swap {left right} := by
    change compareBytes (utf8 left) (utf8 right) = (compareBytes (utf8 right) (utf8 left)).swap
    exact Std.OrientedCmp.eq_swap
  isLE_trans {first second third} lower upper := by
    change (compareBytes (utf8 first) (utf8 third)).isLE
    exact Std.TransCmp.isLE_trans lower upper

instance : Std.LawfulEqCmp compareText where
  eq_of_compare := compareText_eq_eq_iff.mp

/-! ## Lists of bytes -/

/-- The order is the one that lists have. -/
theorem compareBytes_eq_lt_iff {left right : List UInt8} :
    compareBytes left right = .lt ↔ left < right := by
  induction left generalizing right with
  | nil => cases right <;> simp [compareBytes]
  | cons first lefts shorter =>
      cases right with
      | nil => simp [compareBytes]
      | cons second rights =>
          rw [compareBytes, List.cons_lt_cons_iff]
          split
          · rename_i less
            exact iff_of_true rfl (.inl less)
          · rename_i notLess
            split
            · rename_i greater
              refine iff_of_false (by decide) ?_
              rintro (less | ⟨rfl, -⟩)
              · exact notLess less
              · exact notLess greater
            · rename_i notGreater
              have same : first = second :=
                UInt8.le_antisymm (UInt8.not_lt.mp notGreater) (UInt8.not_lt.mp notLess)
              rw [shorter]
              exact ⟨fun later => .inr ⟨same, later⟩,
                fun order => (order.resolve_left notLess).2⟩

theorem compareText_eq_lt_iff {left right : String} :
    compareText left right = .lt ↔ utf8 left < utf8 right :=
  compareBytes_eq_lt_iff

end CardShell.Text
