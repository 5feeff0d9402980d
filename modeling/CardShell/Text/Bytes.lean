/-!
# Byte order

Texts and byte strings are ordered by their bytes, a text being encoded in
UTF-8.  A proper beginning of a byte string comes before it.
-/

namespace CardShell.Text

/-- Compare two byte strings at their first difference. -/
def compareBytes : List UInt8 → List UInt8 → Ordering
  | [], [] => .eq
  | [], _ :: _ => .lt
  | _ :: _, [] => .gt
  | left :: lefts, right :: rights =>
      if left < right then .lt
      else if right < left then .gt
      else compareBytes lefts rights

/-- The UTF-8 bytes of a text. -/
def utf8 (text : String) : List UInt8 :=
  text.toByteArray.data.toList

/-- Compare two texts by their UTF-8 bytes. -/
def compareText (left right : String) : Ordering :=
  compareBytes (utf8 left) (utf8 right)

/-- The number of UTF-8 bytes of a list of characters. -/
def byteLength (text : List Char) : Nat :=
  text.foldr (fun character bytes => character.utf8Size + bytes) 0

/-- Two byte strings compare as equal only when they are the same. -/
theorem compareBytes_eq_eq_iff {left right : List UInt8} :
    compareBytes left right = .eq ↔ left = right := by
  induction left generalizing right with
  | nil => cases right <;> simp [compareBytes]
  | cons first lefts ih =>
      cases right with
      | nil => simp [compareBytes]
      | cons second rights =>
          rcases Nat.lt_trichotomy first.toNat second.toNat with less | same | greater
          · have less : first < second := less
            have unequal : first ≠ second := fun equal => by
              subst equal
              exact absurd less (UInt8.lt_irrefl first)
            simp [compareBytes, less, unequal]
          · have same : first = second := UInt8.toNat.inj same
            subst same
            simp [compareBytes, ih]
          · have greater : second < first := greater
            have notLess : ¬first < second := fun less =>
              absurd (UInt8.lt_trans less greater) (UInt8.lt_irrefl first)
            have unequal : first ≠ second := fun equal => by
              subst equal
              exact absurd greater (UInt8.lt_irrefl first)
            simp [compareBytes, greater, notLess, unequal]

/-- Two texts compare as equal only when they are the same. -/
theorem compareText_eq_eq_iff {left right : String} :
    compareText left right = .eq ↔ left = right := by
  rw [compareText, compareBytes_eq_eq_iff]
  constructor
  · intro same
    exact String.toByteArray_inj.mp (ByteArray.ext (Array.toList_inj.mp same))
  · intro same
    rw [same]

end CardShell.Text
