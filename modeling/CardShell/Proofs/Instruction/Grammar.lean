import CardShell.Instruction.Reader
import CardShell.Proofs.Text.Numerals
import CardShell.Proofs.Text.Trimming
import Mathlib

/-!
# The grammar of instructions

An instruction is an entity name and, behind a blank, pieces between bars; a
piece is a tag and a content with a colon between them, and blanks may stand
around all of these.  The grammar is a relation on texts that says nothing of how
they are read.  The reader accepts exactly the texts of the grammar, with the
clauses and the notices that their pieces mean.
-/

namespace CardShell

/-- The numerals of limits: digits behind at most one sign, whose value lies
between zero and the greatest signed 64-bit value. -/
def LimitNumeral (content : List Char) (count : Nat) : Prop :=
  ∃ sign digits, content = sign ++ digits ∧
    (sign = [] ∨ sign = ['+'] ∨ sign = ['-'] ∧ count = 0) ∧
    digits ≠ [] ∧ digits.all Char.isDigit = true ∧
    Nat.ofDigitChars 10 digits 0 = count ∧ (count : Int) ≤ Text.maxInt64

namespace Segment

/-- The clause of a segment, if it has one. -/
def clause? : Segment → Option Clause
  | .clause found => some found
  | .unknown _ _ => none

/-- The notice that a segment gives, if it gives one. -/
def notice? : Segment → Option Notice
  | .clause _ => none
  | .unknown tag text => some (.unknownTag tag text)

end Segment

/-- The text between two bars, with the tag and the content in it. -/
structure Piece where
  text : List Char
  tag : List Char
  content : List Char

namespace Piece

/-- What a piece is made of, without the blanks. -/
def tokens (piece : Piece) : List Char × List Char :=
  (piece.tag, piece.content)

/-- Tag, colon and content, with blanks around each. -/
structure Formed (piece : Piece) : Prop where
  trimmed_tag : Text.Trimmed piece.tag
  trimmed_content : Text.Trimmed piece.content
  no_colon : ':' ∉ piece.tag
  no_bar_tag : '|' ∉ piece.tag
  no_bar_content : '|' ∉ piece.content
  padded : ∃ beforeTag afterTag beforeContent afterContent,
    Text.Blank beforeTag ∧ Text.Blank afterTag ∧
      Text.Blank beforeContent ∧ Text.Blank afterContent ∧
      piece.text = beforeTag ++ piece.tag ++ afterTag ++
        ':' :: (beforeContent ++ piece.content ++ afterContent)

/-- What a piece means.  Four tags make clauses; any other tag is only
noticed. -/
inductive Means (piece : Piece) : Segment → Prop
  | filter : piece.tag = ['w'] → Means piece (.clause (.filter (String.ofList piece.content)))
  | limit {count : Nat} : piece.tag = ['l'] → LimitNumeral piece.content count →
      Means piece (.clause (.limit count))
  | groupBy : piece.tag = ['g'] → Means piece (.clause (.groupBy (String.ofList piece.content)))
  | orderBy : piece.tag = ['o'] → Means piece (.clause (.orderBy (String.ofList piece.content)))
  | unknown : piece.tag ∉ [['w'], ['l'], ['g'], ['o']] →
      Means piece (.unknown (String.ofList piece.tag) (String.ofList (Text.trim piece.text)))

end Piece

/-- The texts of instructions. -/
inductive Instruction.Written : List Char → List Char → List Piece → Prop
  | bare {before entity after : List Char} :
      Text.Blank before → isEntityName entity = true → Text.Blank after →
      Written (before ++ entity ++ after) entity []
  | clauses {before entity gap after : List Char} {pieces : List Piece} :
      Text.Blank before → isEntityName entity = true → Text.Blank gap → gap ≠ [] →
      pieces ≠ [] → (∀ piece ∈ pieces, piece.Formed) → Text.Blank after →
      Written (before ++ entity ++ gap ++ ['|'].intercalate (pieces.map Piece.text) ++ after)
        entity pieces

/-! ## Numerals of limits -/

/-- The numerals of limits are the numerals whose values are in the range of limits. -/
theorem limitNumeral_iff {content : List Char} {count : Nat} :
    LimitNumeral content count ↔ Text.Numeral content count ∧ (count : Int) ≤ Text.maxInt64 := by
  constructor
  · rintro ⟨sign, digits, rfl, signed, notNil, all, value, fits⟩
    refine ⟨?_, fits⟩
    have isDigits : Text.Digits digits := Text.digits_iff.mpr ⟨notNil, all⟩
    rw [Text.ofDigitChars_eq_placeValue] at value
    rcases signed with rfl | rfl | ⟨rfl, rfl⟩
    · exact value ▸ .unsigned isDigits
    · exact value ▸ .positive isDigits
    · have numeral := Text.Numeral.negative isDigits
      rwa [value] at numeral
  · rintro ⟨numeral, fits⟩
    have written {digits : List Char} (isDigits : Text.Digits digits)
        (value : Text.placeValue digits = count) : digits ≠ [] ∧
          digits.all Char.isDigit = true ∧ Nat.ofDigitChars 10 digits 0 = count := by
      rw [Text.ofDigitChars_eq_placeValue]
      exact ⟨isDigits.1, (Text.digits_iff.mp isDigits).2, value⟩
    generalize same : (count : Int) = value at numeral
    cases numeral with
    | unsigned isDigits =>
        obtain ⟨notNil, all, value⟩ := written isDigits (by omega)
        exact ⟨[], content, rfl, .inl rfl, notNil, all, value, fits⟩
    | @positive digits isDigits =>
        obtain ⟨notNil, all, value⟩ := written isDigits (by omega)
        exact ⟨['+'], digits, rfl, .inr (.inl rfl), notNil, all, value, fits⟩
    | @negative digits isDigits =>
        obtain ⟨notNil, all, value⟩ := written isDigits (by omega)
        exact ⟨['-'], digits, rfl, .inr (.inr ⟨rfl, by omega⟩), notNil, all, value, fits⟩

theorem Text.int64?_eq_ofNat_iff {content : List Char} {count : Nat} :
    int64? content = some (Int.ofNat count) ↔ LimitNumeral content count := by
  rw [int64?_eq_some_iff, limitNumeral_iff, Int.ofNat_eq_natCast]
  have positive : minInt64 ≤ (count : Int) := by
    rw [minInt64]
    omega
  exact and_congr_right fun _ => and_iff_right positive

/-! ## One piece -/

namespace Segment

theorem readLimit_eq_ok_iff {content : List Char} {clause : Clause} :
    readLimit content = .ok clause ↔
      ∃ count, LimitNumeral content count ∧ clause = .limit count := by
  simp only [← Text.int64?_eq_ofNat_iff]
  unfold readLimit
  split
  · rename_i count found
    simp only [found, Except.ok.injEq, Option.some.injEq, Int.ofNat.injEq]
    constructor
    · rintro rfl
      exact ⟨count, rfl, rfl⟩
    · rintro ⟨_, rfl, rfl⟩
      rfl
  · rename_i notFound
    simp only [reduceCtorEq, false_iff, not_exists, not_and]
    intro count found
    exact absurd found (notFound count)

theorem read_of_colon {before after : List Char} (missing : ':' ∉ before) :
    read (before ++ ':' :: after) =
      ofParts (Text.trim (before ++ ':' :: after)) (Text.trim before) (Text.trim after) := by
  have visible : Text.isBlank ':' = false := by decide
  have trimmed := Text.trim_append_cons visible before after
  have missing : ':' ∉ Text.trimStart before := fun member =>
    missing ((List.dropWhile_subset Text.isBlank) member)
  have cut : Text.cutAt ':' (Text.trim (before ++ ':' :: after)) =
      some (Text.trimStart before, Text.trimEnd after) :=
    Text.cutAt_eq_some_iff.mpr ⟨trimmed, missing⟩
  simp only [read, cut, Text.trim_trimStart, Text.trim_trimEnd]

theorem read_of_no_colon {text : List Char} (missing : ':' ∉ text) :
    read text = .error (.malformedClause (String.ofList (Text.trim text))) := by
  have cut : Text.cutAt ':' (Text.trim text) = none := by
    exact Text.cutAt_eq_none_iff.mpr fun member => missing (Text.trim_subset text member)
  rw [read, cut]

/-- The text of a segment shows only in the notice about an unknown tag. -/
theorem ofParts_congr (text other tag content : List Char) :
    ofParts text tag content = ofParts other tag content ∨
      ∃ shown, ofParts text tag content = .ok (.unknown shown (String.ofList text)) ∧
        ofParts other tag content = .ok (.unknown shown (String.ofList other)) := by
  unfold ofParts
  split
  · exact .inl rfl
  · exact .inl rfl
  · exact .inl rfl
  · exact .inl rfl
  · exact .inr ⟨String.ofList tag, rfl, rfl⟩

/-- Only the trimmed text matters. -/
theorem read_congr {text other : List Char} (same : Text.trim text = Text.trim other) :
    read text = read other := by
  rw [read, read, same]

end Segment

namespace Piece

/-- What a piece means is what the reader makes of its parts. -/
theorem means_iff {piece : Piece} {segment : Segment} :
    piece.Means segment ↔
      Segment.ofParts (Text.trim piece.text) piece.tag piece.content = .ok segment := by
  constructor
  · rintro (tag | ⟨tag, numeral⟩ | tag | tag | other)
    · rw [tag, Segment.ofParts]
    · rw [tag, Segment.ofParts, Segment.readLimit_eq_ok_iff.mpr ⟨_, numeral, rfl⟩]
      rfl
    · rw [tag, Segment.ofParts]
    · rw [tag, Segment.ofParts]
    · simp only [List.mem_cons, List.not_mem_nil, or_false, not_or] at other
      obtain ⟨notFilter, notLimit, notGroup, notOrder⟩ := other
      rw [Segment.ofParts]
      all_goals assumption
  · intro read
    unfold Segment.ofParts at read
    split at read
    · rename_i tag
      cases read
      exact .filter tag
    · rename_i tag
      cases limit : Segment.readLimit piece.content with
      | error failure =>
          rw [limit] at read
          contradiction
      | ok clause =>
          obtain ⟨count, numeral, rfl⟩ := Segment.readLimit_eq_ok_iff.mp limit
          rw [limit] at read
          cases read
          exact .limit tag numeral
    · rename_i tag
      cases read
      exact .groupBy tag
    · rename_i tag
      cases read
      exact .orderBy tag
    · rename_i notFilter notLimit notGroup notOrder
      cases read
      apply Means.unknown
      intro member
      simp only [List.mem_cons, List.not_mem_nil, or_false] at member
      rcases member with tag | tag | tag | tag
      · exact notFilter tag
      · exact notLimit tag
      · exact notGroup tag
      · exact notOrder tag

theorem Formed.cut {piece : Piece} (formed : piece.Formed) :
    ∃ before after, piece.text = before ++ ':' :: after ∧ ':' ∉ before ∧
      Text.trim before = piece.tag ∧ Text.trim after = piece.content := by
  obtain ⟨first, second, third, fourth, blank₁, blank₂, blank₃, blank₄, shape⟩ := formed.padded
  have visible : Text.isBlank ':' = false := by decide
  refine ⟨first ++ piece.tag ++ second, third ++ piece.content ++ fourth, shape, ?_, ?_, ?_⟩
  · simp [blank₁.not_mem visible, blank₂.not_mem visible, formed.no_colon]
  · exact Text.trim_eq_iff.mpr ⟨formed.trimmed_tag, first, second, blank₁, blank₂, rfl⟩
  · exact Text.trim_eq_iff.mpr ⟨formed.trimmed_content, third, fourth, blank₃, blank₄, rfl⟩

theorem Formed.no_bar {piece : Piece} (formed : piece.Formed) : '|' ∉ piece.text := by
  obtain ⟨first, second, third, fourth, blank₁, blank₂, blank₃, blank₄, shape⟩ := formed.padded
  have visible : Text.isBlank '|' = false := by decide
  rw [shape]
  simp [blank₁.not_mem visible, blank₂.not_mem visible, blank₃.not_mem visible,
    blank₄.not_mem visible, formed.no_bar_tag, formed.no_bar_content]

theorem Formed.read {piece : Piece} (formed : piece.Formed) :
    Segment.read piece.text =
      Segment.ofParts (Text.trim piece.text) piece.tag piece.content := by
  obtain ⟨before, after, shape, missing, tag, content⟩ := formed.cut
  rw [shape, Segment.read_of_colon missing, tag, content]

/-- A text between two bars that can be read is a piece. -/
theorem exists_of_read {text : List Char} {segment : Segment} (noBar : '|' ∉ text)
    (read : Segment.read text = .ok segment) :
    ∃ piece : Piece, piece.text = text ∧ piece.Formed ∧ piece.Means segment := by
  by_cases colon : ':' ∈ text
  · obtain ⟨before, after, rfl, missing⟩ := List.eq_append_cons_of_mem colon
    rw [Segment.read_of_colon missing] at read
    have noBarBefore : '|' ∉ before := fun member => noBar (by simp [member])
    have noBarAfter : '|' ∉ after := fun member => noBar (by simp [member])
    obtain ⟨first, second, blank₁, blank₂, tag⟩ := Text.exists_eq_append_trim before
    obtain ⟨third, fourth, blank₃, blank₄, content⟩ := Text.exists_eq_append_trim after
    refine ⟨⟨before ++ ':' :: after, Text.trim before, Text.trim after⟩, rfl, ?_,
      means_iff.mpr read⟩
    exact {
      trimmed_tag := Text.trimmed_trim before
      trimmed_content := Text.trimmed_trim after
      no_colon := fun member => missing (Text.trim_subset before member)
      no_bar_tag := fun member => noBarBefore (Text.trim_subset before member)
      no_bar_content := fun member => noBarAfter (Text.trim_subset after member)
      padded := ⟨first, second, third, fourth, blank₁, blank₂, blank₃, blank₄,
        by rw [← tag, ← content]⟩ }
  · rw [Segment.read_of_no_colon colon] at read
    contradiction

end Piece

/-! ## Several pieces -/

namespace Segment

/-- Only the trimmed texts matter. -/
theorem readAll_congr {texts others : List (List Char)}
    (same : texts.map Text.trim = others.map Text.trim) : readAll texts = readAll others := by
  induction texts generalizing others with
  | nil =>
      rw [List.map_nil] at same
      rw [List.map_eq_nil_iff.mp same.symm]
  | cons text texts ih =>
      cases others with
      | nil => contradiction
      | cons other others =>
          rw [List.map_cons, List.map_cons] at same
          obtain ⟨sameFirst, sameRest⟩ := List.cons.inj same
          simp only [readAll, read_congr sameFirst, ih sameRest]

/-- When every text is a segment, their clauses and notices are collected in
order. -/
theorem readAll_of_forall₂ {texts : List (List Char)} {segments : List Segment}
    (reads : List.Forall₂ (fun text segment => read text = .ok segment) texts segments) :
    readAll texts =
      ⟨segments.filterMap notice?, .ok (segments.filterMap clause?)⟩ := by
  induction reads with
  | nil => rfl
  | @cons text segment texts segments first _ ih =>
      cases segment with
      | clause clause =>
          simp [readAll, first, ih, Noted.map, Except.map, List.filterMap_cons, clause?, notice?]
      | unknown tag shown =>
          simp [readAll, first, ih, Noted.after, List.filterMap_cons, clause?, notice?]

/-- The texts are all segments when they can be read together. -/
theorem exists_forall₂_of_readAll {texts : List (List Char)} {clauses : List Clause}
    (ok : (readAll texts).result = .ok clauses) :
    ∃ segments, List.Forall₂ (fun text segment => read text = .ok segment) texts segments := by
  induction texts generalizing clauses with
  | nil => exact ⟨[], .nil⟩
  | cons text texts ih =>
      rw [readAll] at ok
      cases first : read text with
      | error failure =>
          rw [first] at ok
          contradiction
      | ok segment =>
          have rest : ∃ others, (readAll texts).result = .ok others := by
            cases outcome : (readAll texts).result with
            | ok others => exact ⟨others, rfl⟩
            | error failure => cases segment <;> simp [first, outcome, Except.map] at ok
          obtain ⟨others, rest⟩ := rest
          obtain ⟨segments, reads⟩ := ih rest
          exact ⟨segment :: segments, .cons first reads⟩

end Segment

namespace Piece

/-- Texts between bars that can be read are pieces. -/
theorem exists_of_forall₂ {texts : List (List Char)} {segments : List Segment}
    (noBar : ∀ text ∈ texts, '|' ∉ text)
    (reads : List.Forall₂ (fun text segment => Segment.read text = .ok segment) texts segments) :
    ∃ pieces : List Piece, pieces.map Piece.text = texts ∧ (∀ piece ∈ pieces, piece.Formed) ∧
      List.Forall₂ Means pieces segments := by
  induction reads with
  | nil => exact ⟨[], rfl, by simp, .nil⟩
  | @cons text segment texts segments first _ ih =>
      obtain ⟨piece, rfl, formed, means⟩ := exists_of_read (noBar text List.mem_cons_self) first
      obtain ⟨pieces, rfl, allFormed, allMean⟩ :=
        ih fun text member => noBar text (List.mem_cons_of_mem _ member)
      refine ⟨piece :: pieces, rfl, ?_, .cons means allMean⟩
      intro other member
      rcases List.mem_cons.mp member with rfl | member
      · exact formed
      · exact allFormed other member

/-- Pieces are read as what they mean. -/
theorem readAll_of_means {pieces : List Piece} {segments : List Segment}
    (formed : ∀ piece ∈ pieces, piece.Formed) (means : List.Forall₂ Means pieces segments) :
    Segment.readAll (pieces.map Piece.text) =
      ⟨segments.filterMap Segment.notice?, .ok (segments.filterMap Segment.clause?)⟩ := by
  apply Segment.readAll_of_forall₂
  rw [List.forall₂_map_left_iff]
  induction means with
  | nil => exact .nil
  | @cons piece segment pieces segments first _ ih =>
      have read := (formed piece List.mem_cons_self).read
      rw [means_iff.mp first] at read
      exact .cons read (ih fun piece member => formed piece (List.mem_cons_of_mem _ member))

/-- Blanks do not change what pieces come to: only the notices show them. -/
theorem result_readAll_congr {pieces others : List Piece}
    (formed : ∀ piece ∈ pieces, piece.Formed) (otherFormed : ∀ piece ∈ others, piece.Formed)
    (same : pieces.map tokens = others.map tokens) :
    (Segment.readAll (pieces.map Piece.text)).result =
      (Segment.readAll (others.map Piece.text)).result := by
  induction pieces generalizing others with
  | nil =>
      rw [List.map_nil] at same
      rw [List.map_eq_nil_iff.mp same.symm]
  | cons piece pieces ih =>
      cases others with
      | nil => contradiction
      | cons other others =>
          obtain ⟨sameFirst, sameRest⟩ := List.cons.inj same
          obtain ⟨sameTag, sameContent⟩ := Prod.mk.inj sameFirst
          have rest := ih (fun piece member => formed piece (List.mem_cons_of_mem _ member))
            (fun piece member => otherFormed piece (List.mem_cons_of_mem _ member)) sameRest
          have read := (formed piece List.mem_cons_self).read
          have otherRead := (otherFormed other List.mem_cons_self).read
          rw [← sameTag, ← sameContent] at otherRead
          simp only [List.map_cons, Segment.readAll, read, otherRead]
          rcases Segment.ofParts_congr (Text.trim piece.text) (Text.trim other.text) piece.tag
            piece.content with equal | ⟨shown, first, second⟩
          · rw [equal]
            cases Segment.ofParts (Text.trim other.text) piece.tag piece.content with
            | error failure => rfl
            | ok segment => cases segment <;> simp [rest]
          · simp [first, second, rest]

end Piece

/-! ## Whole instructions -/

namespace Instruction

theorem not_isBlank_of_isEntityChar {character : Char} (entity : isEntityChar character = true) :
    Text.isBlank character = false := by
  have bounds : 48 ≤ character.toNat ∧ character.toNat ≤ 122 := by
    simp only [isEntityChar, Char.isAlphanum, Char.isAlpha, Char.isUpper, Char.isLower,
      Char.isDigit, Bool.or_eq_true, Bool.and_eq_true, decide_eq_true_eq, beq_iff_eq, ge_iff_le,
      UInt32.le_iff_toNat_le, Char.reduceVal, UInt32.reduceToNat] at entity
    change ((65 ≤ character.toNat ∧ character.toNat ≤ 90 ∨
      97 ≤ character.toNat ∧ character.toNat ≤ 122) ∨
      48 ≤ character.toNat ∧ character.toNat ≤ 57) ∨ character = '_' at entity
    rcases entity with ((upper | lower) | digit) | rfl
    · omega
    · omega
    · omega
    · decide
  simp only [Text.isBlank, Text.blankRanges, List.any_cons, List.any_nil, Bool.or_false,
    Bool.or_eq_false_iff, Bool.and_eq_false_iff, decide_eq_false_iff_not]
  omega

theorem isEntityName_iff {word : List Char} :
    isEntityName word = true ↔ word ≠ [] ∧ ∀ character ∈ word, isEntityChar character = true := by
  simp [isEntityName]

/-- Pieces are not blank, since each has a colon. -/
theorem not_blank_intercalate {pieces : List Piece} (notNil : pieces ≠ [])
    (formed : ∀ piece ∈ pieces, piece.Formed) :
    ¬Text.Blank (['|'].intercalate (pieces.map Piece.text)) := by
  obtain ⟨first, rest, rfl⟩ := List.exists_cons_of_ne_nil notNil
  obtain ⟨before, after, shape, _⟩ := (formed first List.mem_cons_self).cut
  intro blank
  apply blank.not_mem (show Text.isBlank ':' = false by decide)
  cases rest with
  | nil => simp [shape]
  | cons second rest => simp [shape]

/-- The pieces come back when the text between them is cut at the bars, and
blanks around all of them do not matter. -/
theorem readClauses_of_pieces {gap after : List Char} {pieces : List Piece}
    (blankGap : Text.Blank gap) (blankAfter : Text.Blank after) (notNil : pieces ≠ [])
    (formed : ∀ piece ∈ pieces, piece.Formed) :
    readClauses (Text.trimEnd (gap ++ ['|'].intercalate (pieces.map Piece.text) ++ after)) =
      Segment.readAll (pieces.map Piece.text) := by
  have core : Text.trim
      (Text.trimEnd (gap ++ ['|'].intercalate (pieces.map Piece.text) ++ after)) =
        Text.trim (['|'].intercalate (pieces.map Piece.text)) := by
    rw [Text.trim_trimEnd, Text.trim_append_blank blankAfter, Text.trim_blank_append blankGap]
  have notEmpty : (Text.trim (['|'].intercalate (pieces.map Piece.text))).isEmpty = false := by
    rw [List.isEmpty_eq_false_iff]
    exact fun nil => not_blank_intercalate notNil formed (Text.trim_eq_nil_iff.mp nil)
  have parts : (['|'].intercalate (pieces.map Piece.text)).splitOn '|' =
      pieces.map Piece.text := by
    apply List.splitOn_intercalate '|'
    · intro text member
      obtain ⟨piece, found, rfl⟩ := List.mem_map.mp member
      exact (formed piece found).no_bar
    · simpa using notNil
  have same := Text.map_trim_splitOn_trim (show Text.isBlank '|' = false by decide)
    (['|'].intercalate (pieces.map Piece.text))
  rw [parts] at same
  simp only [readClauses, core, notEmpty, Bool.false_eq_true, if_false]
  exact Segment.readAll_congr same

/-- Reading a text of the grammar comes down to reading its pieces. -/
theorem read_of_written {input : String} {entity : List Char} {pieces : List Piece}
    (written : Written input.toList entity pieces) :
    read input = (Segment.readAll (pieces.map Piece.text)).map fun clauses =>
      ⟨String.ofList entity, clauses⟩ := by
  generalize source : input.toList = text at written
  cases written with
  | @bare before _ after first name last =>
      obtain ⟨notNil, chars⟩ := isEntityName_iff.mp name
      have visible := fun character member => not_isBlank_of_isEntityChar (chars character member)
      have trimmed : Text.trim (before ++ entity ++ after) = entity := by
        rw [Text.trim_append_blank last, Text.trim_blank_append first]
        simpa using Text.trim_word_append notNil visible []
      have cut := Text.firstWord_append visible [] (by simp)
      rw [List.append_nil] at cut
      simp only [read, source, trimmed, cut.1, cut.2, name, if_true]
      rfl
  | @clauses before _ gap after _ first name blankGap gapNotNil notNil formed last =>
      obtain ⟨entityNotNil, chars⟩ := isEntityName_iff.mp name
      have visible := fun character member => not_isBlank_of_isEntityChar (chars character member)
      have trimmed : Text.trim
          (before ++ entity ++ gap ++ ['|'].intercalate (pieces.map Piece.text) ++ after) =
            entity ++ Text.trimEnd
              (gap ++ ['|'].intercalate (pieces.map Piece.text) ++ after) := by
        have word := Text.trim_word_append entityNotNil visible
          (gap ++ ['|'].intercalate (pieces.map Piece.text) ++ after)
        have dropped := Text.trim_blank_append first
          (entity ++ (gap ++ ['|'].intercalate (pieces.map Piece.text) ++ after))
        rw [← word, ← dropped]
        simp only [List.append_assoc]
      have cut := Text.firstWord_append visible
        (Text.trimEnd (gap ++ ['|'].intercalate (pieces.map Piece.text) ++ after))
        (by
          intro character head
          have head := Text.head?_of_head?_trimEnd head
          obtain ⟨blank, gap, rfl⟩ := List.exists_cons_of_ne_nil gapNotNil
          cases head
          exact blankGap _ List.mem_cons_self)
      simp only [read, source, trimmed, cut.1, cut.2, name, if_true]
      rw [readClauses_of_pieces blankGap last notNil formed]

/-- What can be read behind the entity is blank or consists of pieces. -/
theorem exists_pieces_of_readClauses {text : List Char} {clauses : List Clause}
    {notices : List Notice} (ok : readClauses text = ⟨notices, .ok clauses⟩) :
    ∃ pieces segments, List.Forall₂ Piece.Means pieces segments ∧
      (∀ piece ∈ pieces, piece.Formed) ∧
      clauses = segments.filterMap Segment.clause? ∧
      notices = segments.filterMap Segment.notice? ∧
      (pieces = [] ∧ Text.Blank text ∨
        pieces ≠ [] ∧ Text.trim text = ['|'].intercalate (pieces.map Piece.text)) := by
  rw [readClauses] at ok
  by_cases empty : (Text.trim text).isEmpty
  · rw [if_pos empty] at ok
    cases ok
    exact ⟨[], [], .nil, by simp, rfl, rfl,
      .inl ⟨rfl, Text.trim_eq_nil_iff.mp (List.isEmpty_iff.mp empty)⟩⟩
  · rw [if_neg empty] at ok
    obtain ⟨segments, reads⟩ := Segment.exists_forall₂_of_readAll (congrArg Noted.result ok)
    rw [Segment.readAll_of_forall₂ reads] at ok
    cases ok
    obtain ⟨pieces, texts, formed, means⟩ :=
      Piece.exists_of_forall₂ (fun text member => Text.not_mem_of_mem_splitOn member) reads
    refine ⟨pieces, segments, means, formed, rfl, rfl, .inr ⟨?_, ?_⟩⟩
    · rintro rfl
      exact List.splitOn_ne_nil '|' _ texts.symm
    · rw [texts, List.intercalate_splitOn]

/-- A text that is no blank one is kept off the first word by a blank. -/
theorem exists_gap {text core : List Char}
    (trimmed : Text.trim (Text.afterFirstWord text) = core) (visible : ¬Text.Blank core) :
    ∃ gap after, Text.Blank gap ∧ gap ≠ [] ∧ Text.Blank after ∧
      Text.afterFirstWord text = gap ++ core ++ after := by
  obtain ⟨gap, after, blankGap, blankAfter, shape⟩ :=
    Text.exists_eq_append_trim (Text.afterFirstWord text)
  rw [trimmed] at shape
  refine ⟨gap, after, blankGap, ?_, blankAfter, shape⟩
  rintro rfl
  cases core with
  | nil => exact visible Text.blank_nil
  | cons head tail =>
      have first : (Text.afterFirstWord text).head? = some head := by
        rw [shape]
        rfl
      have blank := Text.isBlank_head_afterFirstWord first
      have notBlank := (Text.trimmed_trim (Text.afterFirstWord text)).1 head (by rw [trimmed]; rfl)
      rw [notBlank] at blank
      contradiction

/-- What can be read is a text of the grammar. -/
theorem exists_written_of_read {input : String} {notices : List Notice} {instruction : Instruction}
    (ok : read input = ⟨notices, .ok instruction⟩) :
    ∃ pieces segments, Written input.toList instruction.entity.toList pieces ∧
      List.Forall₂ Piece.Means pieces segments ∧
      instruction.clauses = segments.filterMap Segment.clause? ∧
      notices = segments.filterMap Segment.notice? := by
  obtain ⟨before, after, first, last, shape⟩ := Text.exists_eq_append_trim input.toList
  rw [read] at ok
  generalize Text.trim input.toList = core at ok shape
  have word := Text.firstWord_append_afterFirstWord core
  by_cases name : isEntityName (Text.firstWord core)
  · rw [if_pos name] at ok
    cases outcome : readClauses (Text.afterFirstWord core) with
    | mk given result =>
        rw [outcome] at ok
        cases result with
        | error failure => cases ok
        | ok clauses =>
            cases ok
            obtain ⟨pieces, segments, means, formed, clausesEq, noticesEq, rest⟩ :=
              exists_pieces_of_readClauses outcome
            refine ⟨pieces, segments, ?_, means, clausesEq, noticesEq⟩
            rw [String.toList_ofList, shape]
            rcases rest with ⟨rfl, blank⟩ | ⟨notNil, trimmed⟩
            · have written := Written.bare first name (blank.append last)
              rwa [← List.append_assoc, List.append_assoc before, word] at written
            · obtain ⟨gap, inner, blankGap, gapNotNil, blankInner, restEq⟩ :=
                exists_gap trimmed (not_blank_intercalate notNil formed)
              have written := Written.clauses first name blankGap gapNotNil notNil formed
                (blankInner.append last)
              have whole : before ++ core ++ after =
                  before ++ Text.firstWord core ++ gap ++
                    ['|'].intercalate (pieces.map Piece.text) ++ (inner ++ after) := by
                rw [restEq] at word
                conv_lhs => rw [← word]
                simp only [List.append_assoc]
              rw [whole]
              exact written
  · rw [if_neg name] at ok
    cases ok

theorem Written.isEntityName {text entity : List Char} {pieces : List Piece}
    (written : Written text entity pieces) : isEntityName entity = true := by
  cases written <;> assumption

theorem Written.formed {text entity : List Char} {pieces : List Piece}
    (written : Written text entity pieces) : ∀ piece ∈ pieces, piece.Formed := by
  cases written with
  | bare => simp
  | clauses => assumption

/-- The reader accepts exactly the grammar, with the clauses and the notices of
the pieces in order, and blanks around the tokens do not change the outcome. -/
theorem read_accepts_grammar :
    (∀ (input entity : String) (clauses : List Clause) (notices : List Notice),
      read input = ⟨notices, .ok ⟨entity, clauses⟩⟩ ↔
        ∃ pieces segments, Written input.toList entity.toList pieces ∧
          List.Forall₂ Piece.Means pieces segments ∧
          clauses = segments.filterMap Segment.clause? ∧
          notices = segments.filterMap Segment.notice?) ∧
      ∀ (input other : String) (entity : List Char) (pieces others : List Piece),
        Written input.toList entity pieces → Written other.toList entity others →
          pieces.map Piece.tokens = others.map Piece.tokens →
            (read input).result = (read other).result := by
  constructor
  · intro input entity clauses notices
    constructor
    · exact exists_written_of_read
    · rintro ⟨pieces, segments, written, means, rfl, rfl⟩
      rw [read_of_written written, Piece.readAll_of_means written.formed means]
      simp [Noted.map, Except.map]
  · intro input other entity pieces others written otherWritten same
    rw [read_of_written written, read_of_written otherWritten, Noted.result_map, Noted.result_map,
      Piece.result_readAll_congr written.formed otherWritten.formed same]

/-- A limit with blanks around its tokens is read as one without them. -/
theorem read_limit_of_padded :
    Written " cards  l : 5 ".toList "cards".toList [⟨"l : 5".toList, ['l'], ['5']⟩] ∧
      Written "cards l:5".toList "cards".toList [⟨"l:5".toList, ['l'], ['5']⟩] ∧
      (read " cards  l : 5 ").result = (read "cards l:5").result := by
  have blank (count : Nat) : Text.Blank (List.replicate count ' ') := by
    intro character member
    rw [List.eq_of_mem_replicate member]
    decide
  have trimmedTag : Text.Trimmed ['l'] := Text.trim_eq_self_iff.mp (by decide)
  have trimmedContent : Text.Trimmed ['5'] := Text.trim_eq_self_iff.mp (by decide)
  have formed (count : Nat) : Piece.Formed ⟨['l'] ++ List.replicate count ' ' ++
      ':' :: (List.replicate count ' ' ++ ['5']), ['l'], ['5']⟩ :=
    ⟨trimmedTag, trimmedContent, by simp, by simp, by simp,
      [], List.replicate count ' ', List.replicate count ' ', [], Text.blank_nil,
      blank count, blank count, Text.blank_nil, by simp⟩
  have name : isEntityName "cards".toList = true := by decide
  have padded : Written " cards  l : 5 ".toList "cards".toList
      [⟨"l : 5".toList, ['l'], ['5']⟩] :=
    .clauses (blank 1) name (blank 2) (by simp) (List.cons_ne_nil _ _)
      (List.forall_mem_singleton.mpr (formed 1)) (blank 1)
  have plain : Written "cards l:5".toList "cards".toList [⟨"l:5".toList, ['l'], ['5']⟩] :=
    .clauses (blank 0) name (blank 1) (by simp) (List.cons_ne_nil _ _)
      (List.forall_mem_singleton.mpr (formed 0)) (blank 0)
  exact ⟨padded, plain, read_accepts_grammar.2 _ _ _ _ _ padded plain rfl⟩

end Instruction

end CardShell
