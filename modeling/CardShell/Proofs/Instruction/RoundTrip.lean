import CardShell.Proofs.Instruction.Grammar

/-!
# Written instructions read back

The written form of a canonical instruction is a text of the grammar without
needless blanks, so reading it gives the instruction back.  Reading gives
canonical instructions only: writing what was read and reading it again changes
nothing.
-/

namespace CardShell

/-! ## Canonical instructions are in the grammar -/

theorem not_isBlank_of_isDigit {character : Char} (digit : character.isDigit = true) :
    Text.isBlank character = false := by
  apply Instruction.not_isBlank_of_isEntityChar
  simp [Instruction.isEntityChar, Char.isAlphanum, digit]

theorem isDigit_of_mem_digits {count : Nat} {character : Char}
    (member : character ∈ Text.digits count) : character.isDigit = true :=
  Nat.isDigit_of_mem_toDigits (by decide) (by decide) member

theorem trimmed_digits (count : Nat) : Text.Trimmed (Text.digits count) := by
  constructor
  · intro character first
    exact not_isBlank_of_isDigit (isDigit_of_mem_digits (List.mem_of_mem_head? first))
  · intro character last
    exact not_isBlank_of_isDigit (isDigit_of_mem_digits (List.mem_of_mem_getLast? last))

theorem limitNumeral_digits {count : Nat} (fits : (count : Int) ≤ Text.maxInt64) :
    LimitNumeral (Text.digits count) count :=
  limitNumeral_iff.mpr ⟨Text.numeral_digits count, fits⟩

namespace Clause

/-- The written form of a clause with its parts. -/
def piece (clause : Clause) : Piece :=
  ⟨clause.text.toList, clause.tag.toList, clause.content.toList⟩

theorem toList_text (clause : Clause) :
    clause.text.toList = clause.tag.toList ++ ':' :: clause.content.toList := by
  simp [text]

theorem Canonical.canonicalContent {clause : Clause} (canonical : clause.Canonical) :
    CanonicalContent clause.content := by
  cases clause with
  | limit count =>
      have list : (Text.ofNat count).toList = Text.digits count := String.toList_ofList
      constructor
      · intro member
        rw [Clause.content, list] at member
        have digit := isDigit_of_mem_digits member
        contradiction
      · rw [Clause.content, list, Text.trim_of_trimmed (trimmed_digits count)]
  | _ => exact canonical

/-- The tags of clauses are letters. -/
theorem plain_of_mem_tags :
    ∀ tag ∈ [['w'], ['l'], ['g'], ['o']], Text.trim tag = tag ∧ ':' ∉ tag ∧ '|' ∉ tag := by
  decide

theorem toList_tag_mem (clause : Clause) :
    clause.tag.toList ∈ [['w'], ['l'], ['g'], ['o']] := by
  cases clause <;> simp [tag]

theorem Canonical.formed {clause : Clause} (canonical : clause.Canonical) :
    clause.piece.Formed := by
  obtain ⟨noBar, trimmed⟩ := canonical.canonicalContent
  obtain ⟨trimmedTag, noColonTag, noBarTag⟩ := plain_of_mem_tags _ clause.toList_tag_mem
  exact {
    trimmed_tag := Text.trim_eq_self_iff.mp trimmedTag
    trimmed_content := Text.trim_eq_self_iff.mp trimmed
    no_colon := noColonTag
    no_bar_tag := noBarTag
    no_bar_content := noBar
    padded := ⟨[], [], [], [], Text.blank_nil, Text.blank_nil, Text.blank_nil, Text.blank_nil,
      by simp [piece, toList_text]⟩ }

theorem Canonical.means {clause : Clause} (canonical : clause.Canonical) :
    clause.piece.Means (.clause clause) := by
  cases clause with
  | filter condition =>
      have means : (filter condition).piece.Means
          (.clause (.filter (String.ofList (filter condition).content.toList))) :=
        .filter (by simp [piece, tag])
      simpa [content] using means
  | limit count =>
      have numeral : LimitNumeral (limit count).piece.content count := by
        have list : (Text.ofNat count).toList = Text.digits count := String.toList_ofList
        rw [piece, content, list]
        exact limitNumeral_digits canonical
      exact .limit (by simp [piece, tag]) numeral
  | groupBy terms =>
      have means : (groupBy terms).piece.Means
          (.clause (.groupBy (String.ofList (groupBy terms).content.toList))) :=
        .groupBy (by simp [piece, tag])
      simpa [content] using means
  | orderBy terms =>
      have means : (orderBy terms).piece.Means
          (.clause (.orderBy (String.ofList (orderBy terms).content.toList))) :=
        .orderBy (by simp [piece, tag])
      simpa [content] using means

end Clause

namespace Instruction

/-- The written form of a canonical instruction is in the grammar. -/
theorem Canonical.written {instruction : Instruction} (canonical : instruction.Canonical) :
    Written instruction.text.toList instruction.entity.toList
      (instruction.clauses.map Clause.piece) := by
  obtain ⟨name, clauses⟩ := canonical
  by_cases none : instruction.clauses = []
  · have written := Written.bare Text.blank_nil name Text.blank_nil
    simpa [text, none] using written
  · have formed : ∀ piece ∈ instruction.clauses.map Clause.piece, piece.Formed := by
      intro piece member
      obtain ⟨clause, found, rfl⟩ := List.mem_map.mp member
      exact (clauses clause found).formed
    have gap : Text.Blank [' '] := by
      intro character member
      rw [List.mem_singleton.mp member]
      decide
    have written := Written.clauses Text.blank_nil name gap (by simp) (by simpa using none) formed
      Text.blank_nil
    have shape : instruction.text.toList = [] ++ instruction.entity.toList ++ [' '] ++
        ['|'].intercalate ((instruction.clauses.map Clause.piece).map Piece.text) ++ [] := by
      simp [text, none, String.toList_intercalate, Clause.piece, Function.comp_def]
    rw [shape]
    exact written

/-- A canonical instruction is read back without notices. -/
theorem Canonical.read_text {instruction : Instruction} (canonical : instruction.Canonical) :
    read instruction.text = ⟨[], .ok instruction⟩ := by
  have means : List.Forall₂ Piece.Means (instruction.clauses.map Clause.piece)
      (instruction.clauses.map Segment.clause) := by
    rw [List.forall₂_map_left_iff, List.forall₂_map_right_iff, List.forall₂_same]
    exact fun clause member => (canonical.2 clause member).means
  have written := canonical.written
  rw [read_of_written written, Piece.readAll_of_means written.formed means]
  simp [List.filterMap_map, Segment.clause?, Segment.notice?, Function.comp_def, Noted.map,
    Except.map]

end Instruction

/-! ## Only canonical instructions are read -/

theorem Piece.Formed.canonicalContent {piece : Piece} (formed : piece.Formed) :
    Clause.CanonicalContent (String.ofList piece.content) := by
  rw [Clause.CanonicalContent, String.toList_ofList]
  exact ⟨formed.no_bar_content, Text.trim_of_trimmed formed.trimmed_content⟩

theorem Piece.Formed.canonical {piece : Piece} {clause : Clause} (formed : piece.Formed)
    (means : piece.Means (.clause clause)) : clause.Canonical := by
  cases means with
  | filter => exact formed.canonicalContent
  | limit _ numeral =>
      obtain ⟨_, _, _, _, _, _, _, fits⟩ := numeral
      exact fits
  | groupBy => exact formed.canonicalContent
  | orderBy => exact formed.canonicalContent

/-- A clause comes from the piece that means it. -/
theorem Piece.exists_of_mem_clauses {pieces : List Piece} {segments : List Segment}
    (means : List.Forall₂ Piece.Means pieces segments) {clause : Clause}
    (member : clause ∈ segments.filterMap Segment.clause?) :
    ∃ piece ∈ pieces, piece.Means (.clause clause) := by
  induction means with
  | nil => contradiction
  | @cons piece segment pieces segments first _ ih =>
      obtain ⟨found, foundMember, same⟩ := List.mem_filterMap.mp member
      have segmentEq : found = .clause clause := by
        cases found with
        | clause other =>
            cases same
            rfl
        | unknown => contradiction
      subst segmentEq
      rcases List.mem_cons.mp foundMember with rfl | rest
      · exact ⟨piece, List.mem_cons_self, first⟩
      · obtain ⟨other, otherMember, otherMeans⟩ := ih (List.mem_filterMap.mpr ⟨_, rest, same⟩)
        exact ⟨other, List.mem_cons_of_mem _ otherMember, otherMeans⟩

namespace Instruction

theorem canonical_of_read {input : String} {instruction : Instruction}
    (ok : (read input).result = .ok instruction) : instruction.Canonical := by
  have whole : read input = ⟨(read input).notices, .ok instruction⟩ := by rw [← ok]
  obtain ⟨pieces, segments, written, means, clauses, _⟩ := exists_written_of_read whole
  constructor
  · exact written.isEntityName
  · intro clause member
    rw [clauses] at member
    obtain ⟨piece, found, pieceMeans⟩ := Piece.exists_of_mem_clauses means member
    exact (written.formed piece found).canonical pieceMeans

/-- The written form determines exactly the canonical instructions, and only
these are ever read. -/
theorem read_text_eq_ok_iff_canonical :
    (∀ instruction : Instruction,
      (read instruction.text).result = .ok instruction ↔ instruction.Canonical) ∧
      ∀ (input : String) (instruction : Instruction), (read input).result = .ok instruction →
        instruction.Canonical ∧ read instruction.text = ⟨[], .ok instruction⟩ := by
  constructor
  · intro instruction
    constructor
    · exact canonical_of_read
    · intro canonical
      rw [canonical.read_text]
  · intro input instruction ok
    have canonical := canonical_of_read ok
    exact ⟨canonical, canonical.read_text⟩

/-- Blanks, an unknown tag, a colon in a content and needless zeros are gone once
the instruction is written again. -/
theorem read_text_of_padded :
    (read " cards x:1 | w : a:b|l: +007 ").result =
        .ok ⟨"cards", [.filter "a:b", .limit 7]⟩ ∧
      Canonical ⟨"cards", [.filter "a:b", .limit 7]⟩ ∧
      read (text ⟨"cards", [.filter "a:b", .limit 7]⟩) =
        ⟨[], .ok ⟨"cards", [.filter "a:b", .limit 7]⟩⟩ := by
  have ok : (read " cards x:1 | w : a:b|l: +007 ").result =
      .ok ⟨"cards", [.filter "a:b", .limit 7]⟩ := by rfl
  exact ⟨ok, read_text_eq_ok_iff_canonical.2 _ _ ok⟩

end Instruction

end CardShell
