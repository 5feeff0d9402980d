import CardShell.Text.Width

/-!
# Cutting by display columns

A part of a line that has a blank on both sides is found by the columns that it is displayed
in.  Whatever the characters around it are and however they are measured, there is only one
such part at a place: a longer text in front of it would be wider by a blank at least.
-/

namespace CardShell.Text.Measure

variable {measure : Measure}

/-- A blank in a line is found by the width of what stands in front of it. -/
theorem eq_of_width_eq {before rest other behind : List Char}
    (same : before ++ ' ' :: rest = other ++ ' ' :: behind)
    (wide : measure.width before = measure.width other) : before = other ∧ rest = behind := by
  have longer {first second tail : List Char}
      (shape : second = first ++ ' ' :: tail) : measure.width first < measure.width second := by
    rw [shape, measure.width_seam ' ' blank_mem_seams]
    omega
  rcases List.append_eq_append_iff.mp same with ⟨between, otherShape, restShape⟩ |
    ⟨between, beforeShape, behindShape⟩
  · cases between with
    | nil =>
        rw [List.append_nil] at otherShape
        exact ⟨otherShape.symm, (List.cons.inj restShape).2⟩
    | cons character between =>
        rw [List.cons_append] at restShape
        rw [← (List.cons.inj restShape).1] at otherShape
        exact absurd wide (Nat.ne_of_lt (longer otherShape))
  · cases between with
    | nil =>
        rw [List.append_nil] at beforeShape
        exact ⟨beforeShape, (List.cons.inj behindShape).2.symm⟩
    | cons character between =>
        rw [List.cons_append] at behindShape
        rw [← (List.cons.inj behindShape).1] at beforeShape
        exact absurd wide (Nat.ne_of_lt (longer beforeShape)).symm

/-- A part of a line that begins behind a number of columns and is as wide as given, with a
blank on both sides. -/
def Cuts (measure : Measure) (start size : Nat) (line part : List Char) : Prop :=
  ∃ before after, line = before ++ ' ' :: (part ++ ' ' :: after) ∧
    measure.width before + 1 = start ∧ measure.width part = size

/-- There is one part only at a place. -/
theorem Cuts.unique {start size : Nat} {line part other : List Char}
    (cuts : measure.Cuts start size line part) (another : measure.Cuts start size line other) :
    part = other := by
  rcases cuts with ⟨before, after, shape, place, wide⟩
  rcases another with ⟨front, behind, sameShape, samePlace, sameWide⟩
  have inFront : measure.width before = measure.width front := by
    omega
  rcases eq_of_width_eq (shape.symm.trans sameShape) inFront with ⟨-, rest⟩
  exact (eq_of_width_eq rest (wide.trans sameWide.symm)).1

end CardShell.Text.Measure
