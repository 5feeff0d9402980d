import CardShell.Proofs.Sql.Expression

/-!
# Joining texts

The statement of a selection is made of texts with keywords, commas and parentheses
between them.  Each of these ends the lexeme in front of it and is over before the next
one begins, so the joined text has the lexemes of its parts, moved along, and no others.
-/

namespace CardShell.Sql

/-- A text without mistakes. -/
def Legal (text : List Char) : Prop :=
  ∀ lexeme ∈ lexemes text, lexeme.token ≠ .illegal

instance (text : List Char) : Decidable (Legal text) :=
  inferInstanceAs (Decidable (∀ lexeme ∈ lexemes text, _))

/-- Texts that are apart have no mistakes together that they have not alone. -/
theorem Legal.append {left right : List Char} (first : Legal left) (second : Legal right)
    (apart : Apart left right) : Legal (left ++ right) := by
  rw [Legal, lexemes_append apart, List.forall_mem_append, List.forall_mem_map]
  exact ⟨first, second⟩

/-! ## Connectives -/

/-- A text that may stand between any two texts without changing their lexemes. -/
structure Connective (text : List Char) : Prop where
  legal : Legal text
  breaks : ∃ character ∈ text.head?, Breaks character
  ended : (text.foldl Scan.step .start).current = none

namespace Connective

variable {connective : List Char}

theorem apart (between : Connective connective) (right : List Char) : Apart connective right :=
  apart_of_current between.ended right

theorem apart_append (between : Connective connective) {left : List Char} (legal : Legal left)
    (right : List Char) : Apart left (connective ++ right) := by
  rcases between.breaks with ⟨first, head, breaks⟩
  have starts : (connective ++ right).head? = some first := by
    rw [List.head?_append, Option.mem_def.mp head, Option.some_or]
  apply apart_of_breaks legal
  intro character found
  rw [starts] at found
  exact Option.some.inj found ▸ breaks

/-- The lexemes of a text with a connective in the middle. -/
theorem lexemes_join (between : Connective connective) {left : List Char} (legal : Legal left)
    (right : List Char) :
    lexemes (left ++ (connective ++ right)) =
      lexemes left ++ (lexemes connective ++
        (lexemes right).map (Lexeme.moved (Text.byteLength connective))).map
          (Lexeme.moved (Text.byteLength left)) := by
  rw [lexemes_append (between.apart_append legal right), lexemes_append (between.apart right)]

theorem legal_join (between : Connective connective) {left right : List Char}
    (first : Legal left) (second : Legal right) : Legal (left ++ (connective ++ right)) :=
  first.append (between.legal.append second (between.apart right))
    (between.apart_append first right)

end Connective

/-- The keyword in front of a condition. -/
theorem connective_filter : Connective " WHERE ".toList :=
  ⟨by decide, ⟨' ', rfl, breaks_space⟩, rfl⟩

theorem connective_group : Connective " GROUP BY ".toList :=
  ⟨by decide, ⟨' ', rfl, breaks_space⟩, rfl⟩

theorem connective_order : Connective " ORDER BY ".toList :=
  ⟨by decide, ⟨' ', rfl, breaks_space⟩, rfl⟩

theorem connective_and : Connective " AND ".toList :=
  ⟨by decide, ⟨' ', rfl, breaks_space⟩, rfl⟩

theorem connective_comma : Connective ", ".toList :=
  ⟨by decide, ⟨',', rfl, breaks_comma⟩, rfl⟩

/-! ## Parentheses -/

theorem lexemes_openParen : lexemes ['('] = [⟨.openParen, "(", 0⟩] := by
  rfl

theorem lexemes_closeParen : lexemes [')'] = [⟨.closeParen, ")", 0⟩] := by
  rfl

/-- An opening parenthesis ends before a quote. -/
theorem apart_openParen (inner : List Char) : Apart ['('] ('"' :: inner) := by
  have opens : (['('].foldl Scan.step .start).current = some ⟨.sign, ['('], 0⟩ := by
    rfl
  intro pending found character first
  rw [opens] at found
  cases found
  cases first
  rfl

/-- What is in parentheses is cut as if it stood alone, provided that it starts with a
quote and has no mistakes. -/
theorem lexemes_parenthesized {inner : List Char} (legal : Legal ('"' :: inner)) :
    lexemes ('(' :: ('"' :: inner ++ [')'])) =
      ⟨.openParen, "(", 0⟩ :: (lexemes ('"' :: inner)).map (Lexeme.moved 1) ++
        [⟨.closeParen, ")", 1 + Text.byteLength ('"' :: inner)⟩] := by
  have cut := lexemes_append (apart_openParen (inner ++ [')']))
  rw [← List.cons_append, lexemes_append (apart_closeParen legal []), lexemes_openParen,
    lexemes_closeParen] at cut
  have opening : Text.byteLength ['('] = 1 := rfl
  rw [opening] at cut
  simpa [Lexeme.moved] using cut

theorem legal_parenthesized {inner : List Char} (legal : Legal ('"' :: inner)) :
    Legal ('(' :: ('"' :: inner ++ [')'])) := by
  rw [Legal, lexemes_parenthesized legal, List.forall_mem_append, List.forall_mem_cons,
    List.forall_mem_map, List.forall_mem_singleton]
  exact ⟨⟨nofun, legal⟩, nofun⟩

/-! ## Several texts -/

/-- The first two of several texts may be joined before the others. -/
theorem intercalate_join (connective first second : String) (others : List String) :
    connective.intercalate (first :: second :: others) =
      connective.intercalate ((first ++ connective ++ second) :: others) := by
  cases others with
  | nil =>
      rw [String.intercalate_cons_cons, String.intercalate_singleton,
        String.intercalate_singleton]
  | cons third others =>
      rw [String.intercalate_cons_cons, String.intercalate_cons_cons,
        String.intercalate_cons_cons]
      simp only [String.append_assoc]

/-- What is true of the first of several texts, and stays true when another one is joined to
what it is true of, is true of all of them joined. -/
theorem intercalate_induction {connective : String} {motive : List Char → Prop}
    {others : List String}
    (join : ∀ left, motive left → ∀ other ∈ others,
      motive (left ++ (connective.toList ++ other.toList)))
    {first : String} (start : motive first.toList) :
    motive (connective.intercalate (first :: others)).toList := by
  induction others generalizing first with
  | nil => simpa using start
  | cons second others later =>
      have next : motive (first ++ connective ++ second).toList := by
        simpa using join first.toList start second List.mem_cons_self
      rw [intercalate_join]
      exact later (fun left ok other member =>
        join left ok other (List.mem_cons_of_mem second member)) next

end CardShell.Sql
