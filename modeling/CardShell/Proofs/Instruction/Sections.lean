import CardShell.Proofs.Instruction.Grammar

/-!
# Sections of clauses

What stands behind the entity is read bar by bar from left to right, so reading
two sections with a bar between them comes to reading the first and then the
second.  A text is no instruction for one of two reasons: its first word names no
entity, or, the first word being a name, some text between bars is faulty; then
the leftmost faulty one is the reason, whatever follows it.
-/

namespace CardShell

/-- Changing the value of an outcome does not change its failure. -/
theorem Noted.result_map_eq_error_iff {ε α β : Type} {change : α → β} {outcome : Noted ε α}
    {failure : ε} :
    (outcome.map change).result = .error failure ↔ outcome.result = .error failure := by
  rw [result_map]
  cases outcome.result <;> simp [Except.map]

namespace Segment

/-! ## Faults -/

/-- What is wrong with a text between bars: it has no colon, or the content of a
limit is no numeral of one. -/
inductive Fault (text : List Char) : InstructionError → Prop
  | malformed : ':' ∉ text → Fault text (.malformedClause (String.ofList (Text.trim text)))
  | limit {before after : List Char} : text = before ++ ':' :: after → ':' ∉ before →
      Text.trim before = ['l'] → (∀ count, ¬LimitNumeral (Text.trim after) count) →
      Fault text (.invalidLimit (String.ofList (Text.trim after)))

theorem readLimit_eq_error_iff {content : List Char} {failure : InstructionError} :
    readLimit content = .error failure ↔
      (∀ count, ¬LimitNumeral content count) ∧
        failure = .invalidLimit (String.ofList content) := by
  cases outcome : readLimit content with
  | ok clause =>
      obtain ⟨count, numeral, -⟩ := readLimit_eq_ok_iff.mp outcome
      simp only [reduceCtorEq, false_iff, not_and]
      exact fun none => absurd numeral (none count)
  | error other =>
      have none : ∀ count, ¬LimitNumeral content count := by
        intro count numeral
        rw [readLimit_eq_ok_iff.mpr ⟨count, numeral, rfl⟩] at outcome
        contradiction
      have told : other = .invalidLimit (String.ofList content) := by
        rw [readLimit] at outcome
        split at outcome
        · contradiction
        · exact (Except.error.inj outcome).symm
      rw [told, Except.error.injEq]
      exact ⟨fun same => ⟨none, same.symm⟩, fun known => known.2.symm⟩

/-- Only a limit can be wrong behind its tag. -/
theorem ofParts_eq_error_iff {segment tag content : List Char} {failure : InstructionError} :
    ofParts segment tag content = .error failure ↔
      tag = ['l'] ∧ readLimit content = .error failure := by
  unfold ofParts
  split
  · simp
  · cases readLimit content <;> simp [Except.map]
  · simp
  · simp
  · rename_i _ notLimit _ _
    simp only [reduceCtorEq, false_iff, not_and]
    exact fun tag => absurd tag notLimit

theorem read_eq_error_iff {text : List Char} {failure : InstructionError} :
    read text = .error failure ↔ Fault text failure := by
  constructor
  · intro failed
    by_cases colon : ':' ∈ text
    · obtain ⟨before, after, shape, missing⟩ := List.eq_append_cons_of_mem colon
      rw [shape, read_of_colon missing, ofParts_eq_error_iff, readLimit_eq_error_iff] at failed
      obtain ⟨tag, none, rfl⟩ := failed
      exact .limit shape missing tag none
    · rw [read_of_no_colon colon] at failed
      cases failed
      exact .malformed colon
  · rintro (missing | ⟨shape, missing, tag, none⟩)
    · exact read_of_no_colon missing
    · rw [shape, read_of_colon missing, ofParts_eq_error_iff, readLimit_eq_error_iff]
      exact ⟨tag, none, rfl⟩

/-- Some text between bars is faulty, and none before it is. -/
def FirstFault (texts : List (List Char)) (failure : InstructionError) : Prop :=
  ∃ earlier text later, texts = earlier ++ text :: later ∧
    (∀ other ∈ earlier, ∀ fault, ¬Fault other fault) ∧ Fault text failure

theorem firstFault_cons_iff {text : List Char} {texts : List (List Char)}
    {failure : InstructionError} :
    FirstFault (text :: texts) failure ↔
      Fault text failure ∨ (∀ fault, ¬Fault text fault) ∧ FirstFault texts failure := by
  constructor
  · rintro ⟨earlier, found, later, shape, sound, fault⟩
    cases earlier with
    | nil =>
        obtain ⟨rfl, -⟩ := List.cons.inj shape
        exact .inl fault
    | cons first earlier =>
        obtain ⟨rfl, rfl⟩ := List.cons.inj shape
        obtain ⟨soundFirst, soundRest⟩ := List.forall_mem_cons.mp sound
        exact .inr ⟨soundFirst, earlier, found, later, rfl, soundRest, fault⟩
  · rintro (fault | ⟨soundFirst, earlier, found, later, rfl, sound, fault⟩)
    · exact ⟨[], text, texts, rfl, by simp, fault⟩
    · exact ⟨text :: earlier, found, later, rfl,
        List.forall_mem_cons.mpr ⟨soundFirst, sound⟩, fault⟩

/-! ## Reading several texts -/

/-- Reading fails as the leftmost faulty text does. -/
theorem result_readAll_eq_error_iff {texts : List (List Char)} {failure : InstructionError} :
    (readAll texts).result = .error failure ↔ FirstFault texts failure := by
  induction texts with
  | nil => simp [readAll, Noted.pure, FirstFault]
  | cons text texts later =>
      rw [firstFault_cons_iff, ← later]
      simp only [← read_eq_error_iff]
      rw [readAll]
      cases outcome : read text with
      | error other => simp [Noted.fail]
      | ok segment =>
          cases segment with
          | clause clause =>
              simp only [Noted.result_map_eq_error_iff, reduceCtorEq, not_false_eq_true,
                implies_true, false_or, true_and]
          | unknown tag shown =>
              simp only [Noted.result_after, reduceCtorEq, not_false_eq_true, implies_true,
                false_or, true_and]

/-- Texts are read from left to right, and a fault in the first part is never
behind one in the second. -/
theorem readAll_append (texts others : List (List Char)) :
    readAll (texts ++ others) =
      (readAll texts).bind fun clauses => (readAll others).map (clauses ++ ·) := by
  induction texts with
  | nil =>
      rw [List.nil_append, readAll, Noted.pure_bind]
      obtain ⟨notices, result⟩ := readAll others
      cases result <;> rfl
  | cons text texts later =>
      rw [List.cons_append, readAll, readAll, later]
      cases read text with
      | error failure => rfl
      | ok segment =>
          obtain ⟨notices, result⟩ := readAll texts
          obtain ⟨others, second⟩ := readAll others
          cases segment <;> cases result <;> cases second <;> rfl

end Segment

/-! ## Cutting sections -/

theorem Text.not_blank_iff {text : List Char} :
    ¬Blank text ↔ ∃ character ∈ text, isBlank character = false := by
  simp [Blank]

namespace Instruction

/-- Reading an entity with a section that is not blank comes down to reading the
texts between the bars of the section. -/
theorem read_section {input : String} {entity text : List Char}
    (name : isEntityName entity = true) (shape : input.toList = entity ++ ' ' :: text)
    (visible : ¬Text.Blank text) :
    read input = (Segment.readAll (text.splitOn '|')).map fun clauses =>
      ⟨String.ofList entity, clauses⟩ := by
  obtain ⟨notNil, chars⟩ := isEntityName_iff.mp name
  have word := fun character member => not_isBlank_of_isEntityChar (chars character member)
  have cut := Text.firstWord_append word (Text.trimEnd (' ' :: text)) (by
    intro character head
    cases Text.head?_of_head?_trimEnd head
    decide)
  have blank : Text.Blank [' '] := by
    intro character member
    rw [List.mem_singleton.mp member]
    decide
  have core : Text.trim (Text.trimEnd (' ' :: text)) = Text.trim text := by
    rw [Text.trim_trimEnd]
    exact Text.trim_blank_append blank text
  have notEmpty : (Text.trim text).isEmpty = false := by
    rw [List.isEmpty_eq_false_iff]
    exact fun nil => visible (Text.trim_eq_nil_iff.mp nil)
  have clauses : readClauses (Text.trimEnd (' ' :: text)) =
      Segment.readAll (text.splitOn '|') := by
    simp only [readClauses, core, notEmpty, Bool.false_eq_true, if_false]
    exact Segment.readAll_congr (Text.map_trim_splitOn_trim (by decide) text)
  simp only [read, shape, Text.trim_word_append notNil word, cut.1, cut.2, name, if_true, clauses]

/-- The texts between the bars of what stands behind the first word; there are
none when that is blank. -/
def segments (input : String) : List (List Char) :=
  let text := Text.trim (Text.afterFirstWord (Text.trim input.toList))
  if text.isEmpty then [] else text.splitOn '|'

theorem read_eq_readAll_segments {input : String}
    (name : isEntityName (Text.firstWord (Text.trim input.toList)) = true) :
    read input = (Segment.readAll (segments input)).map fun clauses =>
      ⟨String.ofList (Text.firstWord (Text.trim input.toList)), clauses⟩ := by
  simp only [read, name, if_true, readClauses, segments]
  split <;> rfl

/-- The first word is all that decides whether there is an entity. -/
theorem result_read_eq_noEntity_iff {input : String} :
    (read input).result = .error .noEntity ↔
      isEntityName (Text.firstWord (Text.trim input.toList)) = false := by
  by_cases name : isEntityName (Text.firstWord (Text.trim input.toList)) = true
  · rw [read_eq_readAll_segments name, Noted.result_map_eq_error_iff,
      Segment.result_readAll_eq_error_iff, name]
    simp only [Bool.true_eq_false, iff_false]
    rintro ⟨_, _, _, _, _, fault⟩
    cases fault
  · simp only [read, name, Bool.false_eq_true, if_false, Noted.fail]

/-- Two sections with a bar between them are read one after the other. -/
theorem read_joined {entity first second : String} (name : isEntityName entity.toList = true)
    (visibleFirst : ¬Text.Blank first.toList) (visibleSecond : ¬Text.Blank second.toList) :
    read (entity ++ " " ++ first ++ "|" ++ second) =
      (read (entity ++ " " ++ first)).bind fun instruction =>
        (read (entity ++ " " ++ second)).map fun other =>
          ⟨entity, instruction.clauses ++ other.clauses⟩ := by
  have visible : ¬Text.Blank (first.toList ++ '|' :: second.toList) := fun blank =>
    visibleFirst fun character member => blank character (List.mem_append_left _ member)
  rw [read_section name (by simp) visible, read_section name (by simp) visibleFirst,
    read_section name (by simp) visibleSecond, Text.splitOn_append_cons, Segment.readAll_append,
    String.ofList_toList]
  obtain ⟨notices, result⟩ := Segment.readAll (first.toList.splitOn '|')
  obtain ⟨others, later⟩ := Segment.readAll (second.toList.splitOn '|')
  cases result <;> cases later <;> rfl

/-- A bar joins two sections: the first fault of both is that of the first section
or, when there is none, that of the second; without faults, clauses and notices
follow one another.  A text is no instruction exactly when its first word names no
entity or when, behind a name, some text between bars is faulty, and the leftmost
of these says why. -/
theorem sections_are_read_in_order :
    (∀ entity first second : String, isEntityName entity.toList = true →
      (∃ character ∈ first.toList, Text.isBlank character = false) →
      (∃ character ∈ second.toList, Text.isBlank character = false) →
      (∀ notices failure, read (entity ++ " " ++ first) = ⟨notices, .error failure⟩ →
        read (entity ++ " " ++ first ++ "|" ++ second) = ⟨notices, .error failure⟩) ∧
      ∀ notices instruction, read (entity ++ " " ++ first) = ⟨notices, .ok instruction⟩ →
        (∀ others failure, read (entity ++ " " ++ second) = ⟨others, .error failure⟩ →
          read (entity ++ " " ++ first ++ "|" ++ second) = ⟨notices ++ others, .error failure⟩) ∧
        ∀ others other, read (entity ++ " " ++ second) = ⟨others, .ok other⟩ →
          read (entity ++ " " ++ first ++ "|" ++ second) =
            ⟨notices ++ others, .ok ⟨entity, instruction.clauses ++ other.clauses⟩⟩) ∧
    ∀ input : String,
      ((read input).result = .error .noEntity ↔
        Text.firstWord (Text.trim input.toList) = [] ∨
          ∃ character ∈ Text.firstWord (Text.trim input.toList),
            isEntityChar character = false) ∧
      ∀ failure, failure ≠ .noEntity →
        ((read input).result = .error failure ↔
          isEntityName (Text.firstWord (Text.trim input.toList)) = true ∧
            Segment.FirstFault (segments input) failure) := by
  constructor
  · intro entity first second name visibleFirst visibleSecond
    have joined := read_joined name (Text.not_blank_iff.mpr visibleFirst)
      (Text.not_blank_iff.mpr visibleSecond)
    constructor
    · intro notices failure failed
      rw [joined, failed]
      rfl
    · intro notices instruction ok
      rw [joined, ok]
      constructor
      · intro others failure failed
        rw [failed]
        rfl
      · intro others other okOther
        rw [okOther]
        rfl
  · intro input
    constructor
    · rw [result_read_eq_noEntity_iff, ← Bool.not_eq_true, isEntityName_iff]
      simp only [not_and_or, not_not, not_forall, Bool.not_eq_true, exists_prop]
    · intro failure known
      by_cases name : isEntityName (Text.firstWord (Text.trim input.toList)) = true
      · rw [read_eq_readAll_segments name, Noted.result_map_eq_error_iff,
          Segment.result_readAll_eq_error_iff]
        exact (and_iff_right name).symm
      · have failed := result_read_eq_noEntity_iff.mpr (Bool.not_eq_true _ ▸ name)
        rw [failed]
        simp only [name, Bool.false_eq_true, false_and, iff_false, Except.error.injEq]
        exact known.symm

/-- A limit that is wrong comes before a segment without a colon, and the notice
of the first section stays. -/
theorem sections_with_two_faults :
    read ("cards" ++ " " ++ "x:1|w:a") =
        ⟨[.unknownTag "x" "x:1"], .ok ⟨"cards", [.filter "a"]⟩⟩ ∧
      read ("cards" ++ " " ++ "l:-1|g") = ⟨[], .error (.invalidLimit "-1")⟩ ∧
      read ("cards" ++ " " ++ "x:1|w:a" ++ "|" ++ "l:-1|g") =
        ⟨[.unknownTag "x" "x:1"], .error (.invalidLimit "-1")⟩ ∧
      Segment.FirstFault (segments ("cards" ++ " " ++ "x:1|w:a" ++ "|" ++ "l:-1|g"))
        (.invalidLimit "-1") := by
  have first : read ("cards" ++ " " ++ "x:1|w:a") =
      ⟨[.unknownTag "x" "x:1"], .ok ⟨"cards", [.filter "a"]⟩⟩ := by
    rfl
  have second : read ("cards" ++ " " ++ "l:-1|g") = ⟨[], .error (.invalidLimit "-1")⟩ := by
    rfl
  have joined := ((sections_are_read_in_order.1 "cards" "x:1|w:a" "l:-1|g" (by decide)
    ⟨'x', by decide, by decide⟩ ⟨'l', by decide, by decide⟩).2 _ _ first).1 _ _ second
  have fault := ((sections_are_read_in_order.2 _).2 _ (by decide)).mp
    (congrArg Noted.result joined)
  exact ⟨first, second, joined, fault.2⟩

end Instruction

end CardShell
