import CardShell.Text.Bytes
import CardShell.Value

/-!
# The order of values

Nulls come before numbers, numbers before texts and texts before byte strings.
Integers and binary64 numbers are compared by exact value, texts by their UTF-8
bytes, byte strings by their bytes.
-/

namespace CardShell.Value

/-- The rank of the class of a value. -/
def rank : Value → Nat
  | .null => 0
  | .integer _ | .real _ => 1
  | .text _ => 2
  | .blob _ => 3

/-- The place of a number on the line of numbers. -/
def place : Value → Binary64.Place
  | .integer value => .ofInt value
  | .real value => value.place
  | _ => .bottom

/-- Compare two values. -/
def compare (left right : Value) : Ordering :=
  match left, right with
  | .text left, .text right => Text.compareText left right
  | .blob left, .blob right => Text.compareBytes left right
  | left, right =>
      if left.rank = right.rank then left.place.compare right.place
      else Ord.compare left.rank right.rank

end CardShell.Value
