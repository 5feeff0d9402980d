import CardShell.Text.Blank
import Mathlib.Data.List.DropRight

/-!
# Trimming and cutting

Trimming is undone by putting blanks back: a text is its trimmed form between
two runs of blanks, and the trimmed form is the only trimmed text of which that
holds.  Cutting at a character that is no blank commutes with trimming, whether
the text is cut at the first such character or at all of them.
-/

namespace CardShell.Text

/-- A text of blanks only. -/
def Blank (text : List Char) : Prop :=
  ∀ character ∈ text, isBlank character = true

theorem blank_nil : Blank [] := by
  simp [Blank]

theorem Blank.append {before after : List Char} (first : Blank before) (second : Blank after) :
    Blank (before ++ after) := by
  intro character member
  rcases List.mem_append.mp member with member | member
  · exact first character member
  · exact second character member

/-- A blank text holds no character that is not blank. -/
theorem Blank.not_mem {text : List Char} {character : Char} (blank : Blank text)
    (visible : isBlank character = false) : character ∉ text := by
  intro member
  have found := blank character member
  rw [visible] at found
  contradiction

/-! ## Trimming -/

theorem trimStart_blank_append {before : List Char} (blank : Blank before)
    (text : List Char) : trimStart (before ++ text) = trimStart text :=
  List.dropWhile_append_of_pos blank

theorem trimEnd_append_blank {after : List Char} (blank : Blank after) (text : List Char) :
    trimEnd (text ++ after) = trimEnd text := by
  have reversed : Blank after.reverse := fun character member =>
    blank character (List.mem_reverse.mp member)
  have dropped := trimStart_blank_append reversed text.reverse
  simp only [trimStart] at dropped
  simp [trimEnd, dropped]

@[simp]
theorem trimEnd_nil : trimEnd [] = [] :=
  rfl

theorem trimStart_eq_nil_iff {text : List Char} : trimStart text = [] ↔ Blank text :=
  List.dropWhile_eq_nil_iff

/-- Trimming the start stops at a character that is no blank. -/
theorem trimStart_append_cons {character : Char} (visible : isBlank character = false)
    (before after : List Char) :
    trimStart (before ++ character :: after) = trimStart before ++ character :: after := by
  induction before with
  | nil => simp [trimStart, visible]
  | cons first before ih =>
      simp only [trimStart] at ih
      by_cases blank : isBlank first
      · simp [trimStart, blank, ih]
      · simp [trimStart, blank]

/-- Trimming the end stops at a character that is no blank. -/
theorem trimEnd_append_cons {character : Char} (visible : isBlank character = false)
    (before after : List Char) :
    trimEnd (before ++ character :: after) = before ++ character :: trimEnd after := by
  have stopped := trimStart_append_cons visible after.reverse before.reverse
  simp only [trimStart] at stopped
  simp [trimEnd, stopped]

theorem trim_append_cons {character : Char} (visible : isBlank character = false)
    (before after : List Char) :
    trim (before ++ character :: after) = trimStart before ++ character :: trimEnd after := by
  rw [trim, trimStart_append_cons visible, trimEnd_append_cons visible]

theorem trim_blank_append {before : List Char} (blank : Blank before) (text : List Char) :
    trim (before ++ text) = trim text := by
  rw [trim, trimStart_blank_append blank, trim]

theorem trim_append_blank {after : List Char} (blank : Blank after) (text : List Char) :
    trim (text ++ after) = trim text := by
  by_cases empty : Blank text
  · rw [trim_blank_append empty, trim, trim, trimStart_eq_nil_iff.mpr blank,
      trimStart_eq_nil_iff.mpr empty]
  · have notNil : (text.dropWhile isBlank).isEmpty = false := by
      rw [List.isEmpty_eq_false_iff]
      exact fun nil => empty (trimStart_eq_nil_iff.mp nil)
    have moved : trimStart (text ++ after) = trimStart text ++ after := by
      simp [trimStart, List.dropWhile_append, notNil]
    rw [trim, moved, trimEnd_append_blank blank, trim]

/-- A text is its trimmed form between blanks. -/
theorem exists_eq_append_trim (text : List Char) :
    ∃ before after, Blank before ∧ Blank after ∧ text = before ++ trim text ++ after := by
  refine ⟨text.takeWhile isBlank, (trimStart text).rtakeWhile isBlank,
    fun _ member => List.mem_takeWhile_imp member, fun _ member => List.mem_rtakeWhile_imp member,
    ?_⟩
  have ended : trim text ++ (trimStart text).rtakeWhile isBlank = trimStart text :=
    List.rdropWhile_append_rtakeWhile
  rw [List.append_assoc, ended]
  exact List.takeWhile_append_dropWhile.symm

theorem trim_subset (text : List Char) : trim text ⊆ text := by
  intro character member
  obtain ⟨before, after, _, _, shape⟩ := exists_eq_append_trim text
  rw [shape]
  simp [member]

theorem trimStart_eq_append_trim (text : List Char) :
    ∃ after, Blank after ∧ trimStart text = trim text ++ after :=
  ⟨(trimStart text).rtakeWhile isBlank, fun _ member => List.mem_rtakeWhile_imp member,
    List.rdropWhile_append_rtakeWhile.symm⟩

theorem trim_trimStart (text : List Char) : trim (trimStart text) = trim text := by
  rw [trim, trimStart, trimStart, List.dropWhile_idempotent, trim, trimStart]

theorem trim_trimEnd (text : List Char) : trim (trimEnd text) = trim text := by
  have blank : Blank (text.rtakeWhile isBlank) := fun _ member =>
    List.mem_rtakeWhile_imp member
  have whole : trimEnd text ++ text.rtakeWhile isBlank = text :=
    List.rdropWhile_append_rtakeWhile
  calc
    trim (trimEnd text) = trim (trimEnd text ++ text.rtakeWhile isBlank) :=
      (trim_append_blank blank _).symm
    _ = trim text := by rw [whole]

theorem trim_eq_nil_iff {text : List Char} : trim text = [] ↔ Blank text := by
  constructor
  · intro nil
    obtain ⟨before, after, first, second, shape⟩ := exists_eq_append_trim text
    rw [shape, nil, List.append_nil]
    exact first.append second
  · intro blank
    rw [trim, trimStart_eq_nil_iff.mpr blank]
    rfl

theorem trimmed_trim (text : List Char) : Trimmed (trim text) := by
  constructor
  · intro character first
    obtain ⟨after, _, shape⟩ := trimStart_eq_append_trim text
    have found : (trimStart text).head? = some character := by
      rw [shape, List.head?_append, Option.mem_def.mp first, Option.some_or]
    have stopped := List.head?_dropWhile_not isBlank text
    rw [show (text.dropWhile isBlank).head? = some character from found] at stopped
    exact stopped
  · intro character last
    have notNil : trim text ≠ [] := by
      rintro nil
      rw [nil] at last
      contradiction
    have stopped : ¬isBlank ((trim text).getLast notNil) :=
      List.rdropWhile_last_not isBlank (trimStart text) notNil
    rw [List.getLast?_eq_some_getLast notNil, Option.mem_some_iff] at last
    rw [← last]
    simpa using stopped

theorem trim_of_trimmed {text : List Char} (trimmed : Trimmed text) : trim text = text := by
  have started : trimStart text = text := by
    cases text with
    | nil => rfl
    | cons first rest => exact trimStart_append_cons (trimmed.1 first rfl) [] rest
  rcases List.eq_nil_or_concat text with rfl | ⟨front, last, rfl⟩
  · rfl
  · rw [List.concat_eq_append] at started trimmed ⊢
    have visible : isBlank last = false := trimmed.2 last (by simp)
    rw [trim, started, trimEnd_append_cons visible]
    rfl

theorem trim_eq_self_iff {text : List Char} : trim text = text ↔ Trimmed text := by
  constructor
  · intro same
    rw [← same]
    exact trimmed_trim text
  · exact trim_of_trimmed

/-- The trimmed form is the only trimmed text that gives the text back when
blanks are put around it. -/
theorem trim_eq_iff {text core : List Char} :
    trim text = core ↔
      Trimmed core ∧
        ∃ before after, Blank before ∧ Blank after ∧ text = before ++ core ++ after := by
  constructor
  · rintro rfl
    exact ⟨trimmed_trim text, exists_eq_append_trim text⟩
  · rintro ⟨trimmed, before, after, first, second, rfl⟩
    rw [trim_append_blank second, trim_blank_append first, trim_of_trimmed trimmed]

/-- The end of a text is trimmed no further than its start. -/
theorem head?_of_head?_trimEnd {text : List Char} {character : Char}
    (first : (trimEnd text).head? = some character) : text.head? = some character := by
  have whole : trimEnd text ++ text.rtakeWhile isBlank = text :=
    List.rdropWhile_append_rtakeWhile
  rw [← whole, List.head?_append, first, Option.some_or]

/-- Only what follows a word without blanks can be trimmed. -/
theorem trim_word_append {word : List Char} (notNil : word ≠ [])
    (visible : ∀ character ∈ word, isBlank character = false) (rest : List Char) :
    trim (word ++ rest) = word ++ trimEnd rest := by
  have started : trimStart (word ++ rest) = word ++ rest := by
    obtain ⟨first, tail, rfl⟩ := List.exists_cons_of_ne_nil notNil
    exact trimStart_append_cons (visible first List.mem_cons_self) [] (tail ++ rest)
  rw [trim, started]
  rcases List.eq_nil_or_concat word with rfl | ⟨front, last, rfl⟩
  · contradiction
  · rw [List.concat_eq_append] at visible ⊢
    rw [List.append_assoc, List.append_assoc]
    exact trimEnd_append_cons (visible last (by simp)) front rest

/-! ## The first word -/

/-- A word that a blank follows, or nothing, is the first word. -/
theorem firstWord_append {word : List Char}
    (visible : ∀ character ∈ word, isBlank character = false) (rest : List Char)
    (follows : ∀ character ∈ rest.head?, isBlank character = true) :
    firstWord (word ++ rest) = word ∧ afterFirstWord (word ++ rest) = rest := by
  have kept : ∀ character ∈ word, (!isBlank character) = true := by
    intro character member
    rw [visible character member]
    rfl
  rw [firstWord, afterFirstWord, List.takeWhile_append_of_pos kept,
    List.dropWhile_append_of_pos kept]
  cases rest with
  | nil => simp
  | cons first rest => simp [follows first rfl]

/-- What follows the first word starts with a blank. -/
theorem isBlank_head_afterFirstWord {text : List Char} {character : Char}
    (first : (afterFirstWord text).head? = some character) : isBlank character = true := by
  have stopped := List.head?_dropWhile_not (fun character => !isBlank character) text
  rw [show (text.dropWhile fun character => !isBlank character).head? = some character
    from first] at stopped
  simpa using stopped

/-! ## Cutting at every separator -/

section Cutting

variable {separator : Char}

/-- A blank text in front belongs to the first part. -/
theorem splitOn_blank_append (visible : isBlank separator = false) {before : List Char}
    (blank : Blank before) (text : List Char) :
    (before ++ text).splitOn separator =
      (text.splitOn separator).modifyHead (before ++ ·) := by
  induction before with
  | nil => exact (congrFun List.modifyHead_id _).symm
  | cons first before ih =>
      have different : (first == separator) = false := by
        apply beq_eq_false_iff_ne.mpr
        intro same
        have found := blank first List.mem_cons_self
        rw [same, visible] at found
        contradiction
      rw [List.cons_append, List.splitOn_cons_eq_if_modifyHead, different,
        ih fun character member => blank character (List.mem_cons_of_mem first member)]
      simp [List.modifyHead_modifyHead, Function.comp_def]

/-- A text without separators that is put behind belongs to the last part. -/
theorem splitOn_append (text : List Char) {after : List Char} (missing : separator ∉ after) :
    ∃ front last, text.splitOn separator = front ++ [last] ∧
      (text ++ after).splitOn separator = front ++ [last ++ after] := by
  induction text with
  | nil => exact ⟨[], [], rfl, by simpa using List.splitOn_eq_singleton missing⟩
  | cons first text ih =>
      obtain ⟨front, last, shorter, longer⟩ := ih
      rw [List.cons_append, List.splitOn_cons_eq_if_modifyHead,
        List.splitOn_cons_eq_if_modifyHead, shorter, longer]
      by_cases same : first == separator
      · exact ⟨[] :: front, last, by simp [same], by simp [same]⟩
      · cases front with
        | nil => exact ⟨[], first :: last, by simp [same], by simp [same]⟩
        | cons part front =>
            exact ⟨(first :: part) :: front, last, by simp [same], by simp [same]⟩

/-- Blanks around the whole text are lost when the parts are trimmed. -/
theorem map_trim_splitOn_trim (visible : isBlank separator = false) (text : List Char) :
    ((trim text).splitOn separator).map trim = (text.splitOn separator).map trim := by
  obtain ⟨before, after, first, second, shape⟩ := exists_eq_append_trim text
  obtain ⟨front, last, shorter, longer⟩ :=
    splitOn_append (trim text) (second.not_mem visible)
  have behind : ((trim text ++ after).splitOn separator).map trim =
      ((trim text).splitOn separator).map trim := by
    rw [shorter, longer]
    simp [trim_append_blank second]
  conv_rhs => rw [shape, List.append_assoc, splitOn_blank_append visible first]
  rw [← behind]
  cases (trim text ++ after).splitOn separator with
  | nil => rfl
  | cons part parts => simp [trim_blank_append first]

/-- A separator between two texts is where the parts of the first end and those of
the second begin. -/
theorem splitOn_append_cons (separator : Char) (first second : List Char) :
    (first ++ separator :: second).splitOn separator =
      first.splitOn separator ++ second.splitOn separator := by
  simp only [List.splitOn_eq_splitOnP]
  exact List.splitOnP_append_cons first second (beq_self_eq_true separator)

/-- A part of a cut text has no separator. -/
theorem not_mem_of_mem_splitOn {text part : List Char}
    (member : part ∈ text.splitOn separator) : separator ∉ part := by
  induction text generalizing part with
  | nil =>
      rw [List.splitOn_nil, List.mem_singleton] at member
      simp [member]
  | cons first text ih =>
      rw [List.splitOn_cons_eq_if_modifyHead] at member
      by_cases same : first == separator
      · rw [if_pos same, List.mem_cons] at member
        rcases member with rfl | member
        · simp
        · exact ih member
      · rw [if_neg same] at member
        obtain ⟨head, tail, parts⟩ := List.exists_cons_of_ne_nil
          (List.splitOn_ne_nil separator text)
        rw [parts, List.modifyHead_cons, List.mem_cons] at member
        rcases member with rfl | member
        · have missing : separator ∉ head := ih (by simp [parts])
          have different : separator ≠ first := fun equal => same (by simp [equal])
          simp [different, missing]
        · exact ih (by simp [parts, member])

end Cutting

end CardShell.Text
