import CardShell.Binary64.Shortest

/-!
# Column values and rows

A stored value is null, a 64-bit integer, a binary64 number, a text or a byte
string.  A row pairs column names with values by position; the two lists may
differ in length, and a name may occur more than once.
-/

namespace CardShell

/-- A value of a table column. -/
inductive Value where
  | null
  | integer (value : Int)
  | real (value : Binary64)
  | text (value : String)
  | blob (bytes : List UInt8)
deriving DecidableEq, Repr, Inhabited

namespace Value

/-- The text shown for a value.  A byte string is shown by its length. -/
def shown : Value → String
  | .null => "NULL"
  | .integer value => Text.ofInt value
  | .real value => value.text
  | .text value => value
  | .blob bytes => "<" ++ Text.ofNat bytes.length ++ " bytes>"

/-- Whether a value is null. -/
def isNull : Value → Bool
  | .null => true
  | _ => false

/-- Whether a value is an integer or a binary64 number. -/
def isNumber : Value → Bool
  | .integer _ | .real _ => true
  | _ => false

end Value

/-- One result row. -/
structure Row where
  columns : List String
  values : List Value
deriving DecidableEq, Repr, Inhabited

namespace Row

/-- A row with a value for each column, null where there is none. -/
def ofValues (columns : List String) (values : List Value) : Row :=
  ⟨columns, (List.range columns.length).map fun index => values[index]?.getD .null⟩

/-- The value of the first column of a name.  A name whose first column has no
value is not found, even when a later column of that name has one. -/
def get? (row : Row) (column : String) : Option Value :=
  (row.columns.idxOf? column).bind fun index => row.values[index]?

/-- The columns that have a value, with that value, in order. -/
def entries (row : Row) : List (String × Value) :=
  row.columns.zip row.values

/-- A row of values has one value for each column. -/
theorem length_values_ofValues (columns : List String) (values : List Value) :
    (ofValues columns values).values.length = columns.length := by
  simp [ofValues]

/-- Values that are as many as the columns stay as they are. -/
theorem ofValues_of_length_eq {columns : List String} {values : List Value}
    (same : values.length = columns.length) : ofValues columns values = ⟨columns, values⟩ := by
  have values_eq :
      ((List.range columns.length).map fun index => values[index]?.getD .null) = values := by
    apply List.ext_getElem
    · simp [same]
    · intro index _ bound
      simp [List.getElem?_eq_getElem bound]
  rw [ofValues, values_eq]

/-- The value of a name is the first entry of that name. -/
theorem get?_eq_lookup (row : Row) (column : String) :
    row.get? column = row.entries.lookup column := by
  obtain ⟨columns, values⟩ := row
  induction columns generalizing values with
  | nil => simp [get?, entries]
  | cons first columns ih =>
      cases values with
      | nil => simp [get?, entries]
      | cons value values =>
          by_cases same : first = column
          · subst same
            simp [get?, entries, List.idxOf?_cons]
          · have different : (column == first) = false := by
              simpa using fun equal => same equal.symm
            have rest := ih values
            simp only [get?, entries] at rest
            simp only [get?, entries, List.idxOf?_cons, beq_iff_eq, same, if_false,
              List.zip_cons_cons, List.lookup_cons, different, ← rest]
            cases columns.idxOf? column <;> simp

end Row

end CardShell
