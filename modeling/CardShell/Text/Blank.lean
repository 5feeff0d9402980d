/-!
# Blank characters and trimming

A blank is a character with the Unicode property `White_Space`.  Texts are cut
as lists of characters: trimming removes the blanks at both ends, and the first
word of a text reaches up to its first blank.  The lemmas at the end say what a
trimmed text is and that cutting loses nothing.
-/

namespace CardShell.Text

/-- The closed ranges of code points that have the property `White_Space`. -/
def blankRanges : List (Nat × Nat) :=
  [(0x09, 0x0D), (0x20, 0x20), (0x85, 0x85), (0xA0, 0xA0), (0x1680, 0x1680),
    (0x2000, 0x200A), (0x2028, 0x2029), (0x202F, 0x202F), (0x205F, 0x205F),
    (0x3000, 0x3000)]

/-- Whether a character is blank. -/
def isBlank (character : Char) : Bool :=
  blankRanges.any fun range =>
    range.1 ≤ character.toNat && character.toNat ≤ range.2

/-- Remove the blanks at the start. -/
def trimStart (text : List Char) : List Char :=
  text.dropWhile isBlank

/-- Remove the blanks at the end. -/
def trimEnd (text : List Char) : List Char :=
  (text.reverse.dropWhile isBlank).reverse

/-- Remove the blanks at both ends. -/
def trim (text : List Char) : List Char :=
  trimEnd (trimStart text)

/-- A trimmed text neither starts nor ends with a blank.  The empty text is
trimmed. -/
def Trimmed (text : List Char) : Prop :=
  (∀ character ∈ text.head?, isBlank character = false) ∧
    ∀ character ∈ text.getLast?, isBlank character = false

/-- The characters before the first blank. -/
def firstWord (text : List Char) : List Char :=
  text.takeWhile fun character => !isBlank character

/-- Everything from the first blank on. -/
def afterFirstWord (text : List Char) : List Char :=
  text.dropWhile fun character => !isBlank character

/-- Cut a text at the first occurrence of a separator, which belongs to neither
part. -/
def cutAt (separator : Char) : List Char → Option (List Char × List Char)
  | [] => none
  | character :: rest =>
      if character = separator then some ([], rest)
      else (cutAt separator rest).map fun parts => (character :: parts.1, parts.2)

/-- The text without blanks at both ends, as a string. -/
def trimString (text : String) : String :=
  String.ofList (trim text.toList)

@[simp]
theorem trim_nil : trim [] = [] :=
  rfl

/-- A word and what follows it make up the text. -/
theorem firstWord_append_afterFirstWord (text : List Char) :
    firstWord text ++ afterFirstWord text = text :=
  List.takeWhile_append_dropWhile

/-- A text can be cut exactly when it contains the separator, and the first
part does not contain it. -/
theorem cutAt_eq_some_iff {separator : Char} {text before after : List Char} :
    cutAt separator text = some (before, after) ↔
      text = before ++ separator :: after ∧ separator ∉ before := by
  induction text generalizing before with
  | nil => simp [cutAt]
  | cons character rest ih =>
      by_cases same : character = separator
      · subst same
        cases before with
        | nil => simp [cutAt]
        | cons first before =>
            simp only [cutAt, if_true, Option.some.injEq, Prod.mk.injEq, List.cons_append,
              List.cons.injEq, List.mem_cons, not_or]
            constructor
            · rintro ⟨absurd, _⟩
              cases absurd
            · rintro ⟨⟨equal, _⟩, unequal, _⟩
              exact absurd equal unequal
      · cases before with
        | nil => simp [cutAt, same]
        | cons first before =>
            simp only [cutAt, if_neg same, Option.map_eq_some_iff, Prod.exists, Prod.mk.injEq,
              List.cons.injEq, List.cons_append, List.mem_cons, not_or]
            constructor
            · rintro ⟨_, _, found, ⟨rfl, rfl⟩, rfl⟩
              obtain ⟨shape, missing⟩ := ih.mp found
              exact ⟨⟨rfl, shape⟩, fun equal => same equal.symm, missing⟩
            · rintro ⟨⟨rfl, shape⟩, _, missing⟩
              exact ⟨before, after, ih.mpr ⟨shape, missing⟩, ⟨rfl, rfl⟩, rfl⟩

/-- A text cannot be cut exactly when the separator does not occur in it. -/
theorem cutAt_eq_none_iff {separator : Char} {text : List Char} :
    cutAt separator text = none ↔ separator ∉ text := by
  induction text with
  | nil => simp [cutAt]
  | cons character rest ih =>
      by_cases same : character = separator
      · simp [cutAt, same]
      · simp [cutAt, same, ih, Ne.symm same]

end CardShell.Text
