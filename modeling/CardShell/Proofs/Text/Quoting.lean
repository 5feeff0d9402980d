import CardShell.Text.Quoted

/-!
# Reading quoted names

In a quoted name every quote has a twin, so the first quote without one ends it.  What is
read is therefore the name that was written, and all that follows it is left, as long as
this does not start with a quote itself.
-/

namespace CardShell.Text

theorem readQuotedBody_end {rest : List Char} (free : rest.head? ≠ some '"') :
    readQuotedBody ('"' :: rest) = some ([], rest) := by
  rw [readQuotedBody]
  intro behind starts
  rw [starts] at free
  exact free rfl

theorem readQuotedBody_cons {character : Char} (plain : character ≠ '"') (rest : List Char) :
    readQuotedBody (character :: rest) =
      (readQuotedBody rest).map fun parts => (character :: parts.1, parts.2) := by
  rw [readQuotedBody]
  · exact fun _ quote => absurd quote plain
  · exact plain

/-- A name whose quotes are doubled is read up to the quote behind it. -/
theorem readQuotedBody_doubleQuotes (name : List Char) {rest : List Char}
    (free : rest.head? ≠ some '"') :
    readQuotedBody (doubleQuotes name ++ '"' :: rest) = some (name, rest) := by
  induction name with
  | nil => exact readQuotedBody_end free
  | cons character name shorter =>
      by_cases quote : character = '"'
      · rw [doubleQuotes, if_pos quote, List.cons_append, List.cons_append, readQuotedBody,
          shorter, quote]
        rfl
      · rw [doubleQuotes, if_neg quote, List.cons_append, readQuotedBody_cons quote, shorter]
        rfl

/-- A quoted name is read back, and what follows it is left. -/
theorem readQuoted_quoteName (name : List Char) {rest : List Char}
    (free : rest.head? ≠ some '"') : readQuoted (quoteName name ++ rest) = some (name, rest) := by
  rw [quoteName, List.cons_append, List.append_assoc, readQuoted]
  exact readQuotedBody_doubleQuotes name free

/-- Nothing but a name with its quotes doubled is read up to a quote. -/
theorem eq_of_readQuotedBody {text name rest : List Char}
    (read : readQuotedBody text = some (name, rest)) :
    text = doubleQuotes name ++ '"' :: rest ∧ rest.head? ≠ some '"' := by
  fun_induction readQuotedBody text generalizing name rest with
  | case1 => contradiction
  | case2 behind shorter =>
      rcases Option.map_eq_some_iff.mp read with ⟨⟨front, back⟩, found, same⟩
      cases same
      rcases shorter found with ⟨rfl, free⟩
      exact ⟨by simp [doubleQuotes], free⟩
  | case3 behind single =>
      cases read
      constructor
      · rfl
      · intro quote
        rcases List.head?_eq_some_iff.mp quote with ⟨further, shape⟩
        exact single further shape
  | case4 character behind notDoubled plain shorter =>
      rcases Option.map_eq_some_iff.mp read with ⟨⟨front, back⟩, found, same⟩
      cases same
      rcases shorter found with ⟨rfl, free⟩
      have different : character ≠ '"' := fun quote => plain quote
      exact ⟨by simp [doubleQuotes, different], free⟩

/-- A name is read exactly where it stands quoted and no further quote follows, and what is
left is what follows. -/
theorem readQuoted_eq_some_iff {text name rest : List Char} :
    readQuoted text = some (name, rest) ↔
      text = quoteName name ++ rest ∧ rest.head? ≠ some '"' := by
  constructor
  · intro read
    unfold readQuoted at read
    split at read
    · rcases eq_of_readQuotedBody read with ⟨rfl, free⟩
      exact ⟨by simp [quoteName], free⟩
    · contradiction
  · rintro ⟨rfl, free⟩
    exact readQuoted_quoteName name free

/-- Two texts that start with quoted names are equal only if these names are, and what
follows them is. -/
theorem quoteName_append_inj {name other rest behind : List Char} (free : rest.head? ≠ some '"')
    (alsoFree : behind.head? ≠ some '"')
    (same : quoteName name ++ rest = quoteName other ++ behind) :
    name = other ∧ rest = behind := by
  have read := readQuoted_quoteName name free
  rw [same, readQuoted_quoteName other alsoFree, Option.some.injEq, Prod.mk.injEq] at read
  exact ⟨read.1.symm, read.2.symm⟩

/-- Different names are quoted differently. -/
theorem quoteString_injective : Function.Injective quoteString := by
  intro name other same
  have texts : quoteName name.toList ++ [] = quoteName other.toList ++ [] := by
    rw [List.append_nil, List.append_nil]
    exact String.ofList_injective same
  exact String.toList_inj.mp (quoteName_append_inj (by simp) (by simp) texts).1

end CardShell.Text
