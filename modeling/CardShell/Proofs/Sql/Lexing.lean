import CardShell.Proofs.Sql.WholeTable

/-!
# Cutting a text in two

The pass that cuts a text into lexemes knows nothing of where it is, so the
lexemes of a text are those of its first part and, moved along, those of its second
part, whenever the second part does not continue the last lexeme of the first.
-/

namespace CardShell.Sql

/-! ## Moving along -/

/-- The same lexeme further along in a text. -/
def Lexeme.moved (distance : Nat) (lexeme : Lexeme) : Lexeme :=
  { lexeme with offset := distance + lexeme.offset }

theorem Lexeme.map_moved_map_moved (first second : Nat) (lexemes : List Lexeme) :
    (lexemes.map (moved first)).map (moved second) = lexemes.map (moved (second + first)) := by
  simp [moved, Function.comp_def, Nat.add_assoc]

/-- The same partial lexeme further along in a text. -/
def Partial.moved (distance : Nat) (pending : Partial) : Partial :=
  { pending with offset := distance + pending.offset }

namespace Scan

/-- The same state further along in a text, behind lexemes that are finished. -/
def moved (distance : Nat) (before : List Lexeme) (scan : Scan) : Scan :=
  ⟨distance + scan.position, scan.current.map (Partial.moved distance),
    scan.finished.map (Lexeme.moved distance) ++ before⟩

theorem flush_moved (distance : Nat) (before : List Lexeme) (scan : Scan) :
    (scan.moved distance before).flush = scan.flush.moved distance before := by
  obtain ⟨position, current, finished⟩ := scan
  cases current <;> rfl

theorem begin_moved (distance : Nat) (before : List Lexeme) (scan : Scan) (character : Char) :
    (scan.moved distance before).begin character =
      (scan.begin character).moved distance before := by
  by_cases space : isSpace character = true <;>
    simp [begin, moved, Partial.moved, space, Nat.add_assoc]

theorem step_moved (distance : Nat) (before : List Lexeme) (scan : Scan) (character : Char) :
    (scan.moved distance before).step character =
      (scan.step character).moved distance before := by
  obtain ⟨position, current, finished⟩ := scan
  cases current with
  | none => exact begin_moved distance before ⟨position, none, finished⟩ character
  | some pending =>
      have same : (pending.moved distance).extendMode? character =
          pending.extendMode? character :=
        rfl
      cases extended : pending.extendMode? character with
      | none =>
          have ended : step ⟨position, some pending, finished⟩ character =
              (flush ⟨position, some pending, finished⟩).begin character := by
            simp only [step, extended]
          have endedMoved :
              (moved distance before ⟨position, some pending, finished⟩).step character =
                (moved distance before ⟨position, some pending, finished⟩).flush.begin
                  character := by
            simp only [step, moved, Option.map_some, same, extended]
          rw [endedMoved, flush_moved, begin_moved, ended]
      | some mode =>
          simp only [step, moved, Option.map_some, same, extended, Nat.add_assoc]
          rfl

theorem foldl_step_moved (distance : Nat) (before : List Lexeme) (text : List Char)
    (scan : Scan) :
    text.foldl step (scan.moved distance before) =
      (text.foldl step scan).moved distance before := by
  induction text generalizing scan with
  | nil => rfl
  | cons character text later => rw [List.foldl_cons, List.foldl_cons, step_moved, later]

theorem position_step (scan : Scan) (character : Char) :
    (scan.step character).position = scan.position + character.utf8Size := by
  obtain ⟨position, current, finished⟩ := scan
  cases current with
  | none => rfl
  | some pending =>
      cases extended : pending.extendMode? character <;> simp [step, extended, begin, flush]

theorem position_foldl_step (text : List Char) (scan : Scan) :
    (text.foldl step scan).position = scan.position + Text.byteLength text := by
  induction text generalizing scan with
  | nil => rfl
  | cons character text later =>
      rw [List.foldl_cons, later, position_step, Nat.add_assoc]
      rfl

end Scan

/-! ## Cutting -/

/-- A text does not continue the last lexeme of the text in front of it. -/
def Apart (left right : List Char) : Prop :=
  ∀ pending ∈ (left.foldl Scan.step .start).current, ∀ character ∈ right.head?,
    pending.extendMode? character = none

/-- Texts that are apart are cut one after the other. -/
theorem lexemes_append {left right : List Char} (apart : Apart left right) :
    lexemes (left ++ right) =
      lexemes left ++ (lexemes right).map (Lexeme.moved (Text.byteLength left)) := by
  cases right with
  | nil => simp [lexemes, Scan.start, Scan.flush]
  | cons character right =>
      have position := Scan.position_foldl_step left .start
      rw [Apart] at apart
      rw [lexemes, lexemes, List.foldl_append]
      generalize left.foldl Scan.step .start = scan at apart position ⊢
      -- The first character behind the cut finds no lexeme that it belongs to.
      have flushed : scan.step character = scan.flush.step character := by
        obtain ⟨place, current, finished⟩ := scan
        cases current with
        | none => rfl
        | some pending =>
            simp only [Scan.step, apart pending rfl character rfl, Scan.flush]
      have fresh : scan.flush =
          Scan.moved (Text.byteLength left) scan.flush.finished .start := by
        obtain ⟨place, current, finished⟩ := scan
        have place : place = Text.byteLength left := position.trans (Nat.zero_add _)
        cases current <;> simp [Scan.flush, Scan.moved, Scan.start, place]
      rw [List.foldl_cons, flushed, ← List.foldl_cons, fresh, Scan.foldl_step_moved,
        Scan.flush_moved, lexemes]
      simp [Scan.moved, Scan.start, Scan.flush]

/-! ## Breaks -/

/-- A kind of lexeme that has to be closed by a quote. -/
def Mode.isOpen : Mode → Bool
  | .text false | .quoted false | .blob => true
  | _ => false

/-- A lexeme that is never closed is a mistake. -/
theorem Partial.token_of_isOpen {pending : Partial} (opened : pending.mode.isOpen = true) :
    pending.token = .illegal := by
  rw [Partial.token]
  rw [Mode.isOpen.eq_def] at opened
  split at opened <;> simp_all

/-- A character with which only an open lexeme goes on. -/
def Breaks (character : Char) : Prop :=
  ∀ pending : Partial, pending.mode.isOpen = false → pending.extendMode? character = none

/-- A character is a break when it stands in no word and no number, is no quote and does
not end a sign. -/
theorem breaks_of_plain {character : Char} (notWord : isWordChar character = false)
    (notSpecial : character ∉ ['.', '+', '-', '\'', '"'])
    (noSign : ∀ first, signToken [first, character] = .illegal) : Breaks character := by
  simp only [List.mem_cons, List.not_mem_nil, or_false, not_or] at notSpecial
  rcases notSpecial with ⟨notDot, notPlus, notMinus, notSingle, notDouble⟩
  rintro ⟨mode, reversed, offset⟩ closed
  cases mode with
  | word => simp [Partial.extendMode?, notWord, notSingle]
  | number => simp [Partial.extendMode?, notWord, notDot, notPlus, notMinus]
  | text ended =>
      cases ended with
      | true => simp [Partial.extendMode?, notSingle]
      | false => contradiction
  | quoted ended =>
      cases ended with
      | true => simp [Partial.extendMode?, notDouble]
      | false => contradiction
  | blob => contradiction
  | sign =>
      simp only [Partial.extendMode?]
      split
      · rename_i two
        obtain ⟨⟨first, single⟩, found⟩ : (∃ first, reversed = [first]) ∧
            signToken (reversed ++ [character]) ≠ .illegal := by
          simpa [List.length_eq_one_iff] using two
        rw [single] at found
        exact absurd (noSign first) found
      · rfl
  | complete => rfl

theorem breaks_closeParen : Breaks ')' :=
  breaks_of_plain (by decide) (by decide) fun first => by
    unfold signToken
    split <;> simp_all

theorem breaks_space : Breaks ' ' :=
  breaks_of_plain (by decide) (by decide) fun first => by
    unfold signToken
    split <;> simp_all

theorem breaks_comma : Breaks ',' :=
  breaks_of_plain (by decide) (by decide) fun first => by
    unfold signToken
    split <;> simp_all

/-- A lexeme that is still open at the end of a text is its last one. -/
theorem mem_lexemes_of_current {text : List Char} {pending : Partial}
    (found : pending ∈ (text.foldl Scan.step .start).current) :
    pending.lexeme ∈ lexemes text := by
  rw [lexemes, Scan.flush, Option.mem_def.mp found]
  simp

/-- A text without mistakes is apart from every text that starts with a break. -/
theorem apart_of_breaks {text right : List Char}
    (legal : ∀ lexeme ∈ lexemes text, lexeme.token ≠ .illegal)
    (breaks : ∀ character ∈ right.head?, Breaks character) : Apart text right :=
  fun pending found character first =>
    breaks character first pending (Bool.not_eq_true _ ▸ fun opened =>
      legal pending.lexeme (mem_lexemes_of_current found) (pending.token_of_isOpen opened))

theorem apart_closeParen {text : List Char}
    (legal : ∀ lexeme ∈ lexemes text, lexeme.token ≠ .illegal) (right : List Char) :
    Apart text (')' :: right) :=
  apart_of_breaks legal fun _ first => Option.some.inj first ▸ breaks_closeParen

/-- A text that ends between two lexemes is apart from every text. -/
theorem apart_of_current {text : List Char}
    (between : (text.foldl Scan.step .start).current = none) (right : List Char) :
    Apart text right := by
  intro pending found
  rw [between] at found
  contradiction

/-- An open lexeme goes on over everything but quotes. -/
theorem foldl_step_of_isOpen {text : List Char}
    (unquoted : ∀ character ∈ text, character ∉ ['\'', '"']) {scan : Scan} {pending : Partial}
    (current : scan.current = some pending) (opened : pending.mode.isOpen = true) :
    ∃ last, (text.foldl Scan.step scan).current = some last ∧ last.mode.isOpen = true := by
  induction text generalizing scan pending with
  | nil => exact ⟨pending, current, opened⟩
  | cons character text later =>
      rcases List.forall_mem_cons.mp unquoted with ⟨plain, unquoted⟩
      have extended : pending.extendMode? character = some pending.mode := by
        simp only [List.mem_cons, List.not_mem_nil, or_false, not_or] at plain
        rw [Partial.extendMode?]
        rw [Mode.isOpen.eq_def] at opened
        split at opened <;> simp_all
      have next : (scan.step character).current =
          some { pending with reversed := character :: pending.reversed } := by
        simp only [Scan.step, current, extended]
      exact later unquoted next opened

/-- In a text without mistakes a part without quotes that starts with a break is apart
from what stands in front of it. -/
theorem apart_of_legal {left right : List Char}
    (legal : ∀ lexeme ∈ lexemes (left ++ right), lexeme.token ≠ .illegal)
    (breaks : ∀ character ∈ right.head?, Breaks character)
    (unquoted : ∀ character ∈ right, character ∉ ['\'', '"']) : Apart left right := by
  intro pending found character first
  apply breaks character first pending
  rw [← Bool.not_eq_true]
  intro opened
  rcases foldl_step_of_isOpen unquoted found opened with ⟨last, current, stillOpen⟩
  rw [← List.foldl_append] at current
  exact legal last.lexeme (mem_lexemes_of_current current) (last.token_of_isOpen stillOpen)

/-- A quoted name is not continued by a text that does not start with a quote. -/
theorem apart_quoteName (name : List Char) {rest : List Char} (free : rest.head? ≠ some '"') :
    Apart ("SELECT * FROM ".toList ++ Text.quoteName name) rest := by
  intro pending found character first
  rw [List.foldl_append, foldl_step_opening, foldl_step_quoteName] at found
  cases found
  have plain : character ≠ '"' := fun same => free (same ▸ first)
  simp [Partial.extendMode?, plain]

end CardShell.Sql
