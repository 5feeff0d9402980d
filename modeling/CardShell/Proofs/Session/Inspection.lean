import CardShell.Proofs.Instruction.RoundTrip
import CardShell.Proofs.Session.Held
import CardShell.Proofs.Text.Numerals
import CardShell.Proofs.Text.Trimming

/-!
# Rows by their written numbers

A row of the last result is asked for by a written number.  Three things can be wrong, and
they are told in a fixed order: the text is no number, there is no result, or the result has
no such row.  The number that a result is drawn with in front of a row is one by which the
row is found again.
-/

namespace CardShell

/-! ## Indices -/

namespace Cursor

variable {cursor : Cursor} {index : Int}

theorem row?_eq_none_iff : cursor.row? index = none ↔ index < 0 ∨ cursor.rows.length ≤ index := by
  cases index with
  | ofNat position =>
      rw [row?, List.getElem?_eq_none_iff, Int.ofNat_eq_natCast]
      omega
  | negSucc position => exact iff_of_true rfl (.inl (Int.negSucc_lt_zero position))

/-- An index that no row has is told with the number of rows, and nothing else is. -/
theorem inspect_record_eq_outOfRange_iff {entity : Entity} {rows : List Row}
    {choice : ColumnChoice} :
    (record entity rows).inspect index choice = .error (.outOfRange index rows.length) ↔
      index < 0 ∨ rows.length ≤ index := by
  rw [show rows.length = (record entity rows).rows.length from rfl, ← row?_eq_none_iff, inspect]
  cases (record entity rows).row? index with
  | none => exact iff_of_true rfl rfl
  | some row => exact iff_of_false (by rintro ⟨⟩) (by rintro ⟨⟩)

end Cursor

namespace Session

variable {δ : Type} {session : Session δ} {input : String}

/-! ## Written numbers -/

theorem row_of_no_numeral
    (none : ∀ value, Text.Numeral (Text.trim input.toList) value →
      ¬(Text.minInt64 ≤ value ∧ value ≤ Text.maxInt64)) :
    session.row input = .error (.invalidRowNumber (Text.trimString input)) := by
  rw [row, Text.int64?_eq_none_iff.mpr none]
  rfl

theorem row_of_numeral {value : Int} (numeral : Text.Numeral (Text.trim input.toList) value)
    (fits : Text.minInt64 ≤ value ∧ value ≤ Text.maxInt64) :
    session.row input = session.rowAt value := by
  rw [row, Text.int64?_eq_some_iff.mpr ⟨numeral, fits⟩]

/-- Numerals of one value ask for the same row. -/
theorem row_congr {other : String} {value : Int}
    (numeral : Text.Numeral (Text.trim input.toList) value)
    (same : Text.Numeral (Text.trim other.toList) value)
    (fits : Text.minInt64 ≤ value ∧ value ≤ Text.maxInt64) :
    session.row input = session.row other := by
  rw [row_of_numeral numeral fits, row_of_numeral same fits]

end Session

namespace Rendering

/-- The number in front of a row is a numeral of the index of the row, however wide its
column is drawn. -/
theorem numeral_trim_lineAt (measure : Text.Measure) (index width : Nat) :
    Text.Numeral (Text.trim ((Cell.right (Text.ofNat index)).lineAt measure width 0)) index := by
  have lines : (Cell.right (Text.ofNat index)).lines = [Text.digits index] := by
    rw [Cell.right, Text.ofNat, String.toList_ofList,
      List.splitOn_eq_singleton (Text.newline_not_mem_digits index)]
  have blank (count : Nat) : Text.Blank (List.replicate count ' ') := by
    intro character member
    rw [List.eq_of_mem_replicate member]
    decide
  have trimmed : Text.trim ((Cell.right (Text.ofNat index)).lineAt measure width 0) =
      Text.digits index := by
    rw [Cell.lineAt, lines]
    exact (Text.trim_blank_append (blank _) _).trans (Text.trim_of_trimmed (trimmed_digits index))
  rw [trimmed]
  exact Text.numeral_digits index

end Rendering

namespace Session

variable {δ : Type} [Engine δ] {session : Session δ}

/-- Before any query has succeeded there is no result to ask for a row of. -/
theorem rowAt_of_no_answer (opened : session.Opened) {requests : List Request}
    (none : session.lastAnswer? requests = none) (index : Int) :
    (session.afterRequests requests).rowAt index = .error .noResults := by
  rw [rowAt, cursor_afterRequests, none, opened.fresh]
  rfl

/-- Later a row is looked for in the last answer. -/
theorem rowAt_of_answer {requests : List Request} {asked : String} {report : Report}
    (last : session.lastAnswer? requests = some (asked, report)) (index : Int) :
    (session.afterRequests requests).rowAt index =
      (Cursor.record report.entity report.rows).inspect index
        (session.afterRequests requests).choice := by
  rw [rowAt, cursor_afterRequests, last]

/-- After any requests a row is asked for by a text.  A text that is no numeral in the range
of signed 64-bit words is refused as it was written, less the blanks around it, whatever is
held.  A numeral is refused when no query has succeeded, and then when its value is negative
or reaches the number of rows of the last query that succeeded; otherwise it gives the
entries of the row at its value, all of them where no columns are chosen for their entity and
else the shown ones, so numerals of one value give the same.  The number that is
drawn in front of a row of that result gives this row, however wide it is drawn; a list in
memory has no more items than the greatest signed word. -/
theorem row_numbers_find_rows (opened : session.Opened) (requests : List Request) :
    ∃ later, session.afterRequests requests = later ∧
      (∀ input, (∀ value, Text.Numeral (Text.trim input.toList) value →
          ¬(Text.minInt64 ≤ value ∧ value ≤ Text.maxInt64)) →
        later.row input = .error (.invalidRowNumber (Text.trimString input))) ∧
      (∀ input value, Text.Numeral (Text.trim input.toList) value →
        Text.minInt64 ≤ value ∧ value ≤ Text.maxInt64 →
        (session.lastAnswer? requests = none → later.row input = .error .noResults) ∧
        (∀ asked report, session.lastAnswer? requests = some (asked, report) →
          (later.row input = .error (.outOfRange value report.rows.length) ↔
            value < 0 ∨ report.rows.length ≤ value) ∧
          (¬(value < 0 ∨ report.rows.length ≤ value) →
            ∃ row, report.rows[value.toNat]? = some row ∧
              later.row input = .ok
                ⟨row.entries.filter fun entry => later.choice.shows report.entity.name entry.1⟩ ∧
              (later.choice.chosen? report.entity.name = none →
                later.row input = .ok ⟨row.entries⟩))) ∧
        ∀ other, Text.Numeral (Text.trim other.toList) value →
          later.row other = later.row input) ∧
      ∀ asked report, session.lastAnswer? requests = some (asked, report) →
        (report.rows.length : Int) ≤ Text.maxInt64 →
        ∀ (columns : List String) (index : Nat) (row : Row), report.rows[index]? = some row →
          ∃ cell, (Rendering.resultGrid columns report.rows).cell? index 0 = some cell ∧
            ∀ measure width, later.row (String.ofList (cell.lineAt measure width 0)) = .ok
              ⟨row.entries.filter fun entry => later.choice.shows report.entity.name entry.1⟩ := by
  refine ⟨session.afterRequests requests, rfl, fun _ => row_of_no_numeral, ?_, ?_⟩
  · intro input value numeral fits
    refine ⟨?_, ?_, fun _ same => row_congr same numeral fits⟩
    · intro none
      rw [row_of_numeral numeral fits, rowAt_of_no_answer opened none]
    · intro asked report last
      rw [row_of_numeral numeral fits, rowAt_of_answer last]
      refine ⟨Cursor.inspect_record_eq_outOfRange_iff, ?_⟩
      intro inside
      have position : (value.toNat : Int) = value := by omega
      have bound : value.toNat < report.rows.length := by omega
      obtain ⟨row, found⟩ : ∃ row, report.rows[value.toNat]? = some row :=
        ⟨_, List.getElem?_eq_getElem bound⟩
      have shown : (Cursor.record report.entity report.rows).inspect (value.toNat : Int) _ = _ :=
        Cursor.inspect_record found (session.afterRequests requests).choice
      rw [position] at shown
      refine ⟨row, found, shown, fun unconfigured => ?_⟩
      rw [shown, Cursor.detailOf_of_chosen?_eq_none unconfigured]
  · intro asked report last small columns index row found
    have bound := (List.getElem?_eq_some_iff.mp found).1
    refine ⟨.right (Text.ofNat index), ?_, ?_⟩
    · rw [Rendering.cell?_resultGrid_zero, found, Option.map_some]
    · intro measure width
      have numeral := Rendering.numeral_trim_lineAt measure index width
      rw [← String.toList_ofList (l := Rendering.Cell.lineAt _ _ width 0)] at numeral
      rw [row_of_numeral numeral (by rw [Text.minInt64]; omega), rowAt_of_answer last]
      exact Cursor.inspect_record found _

/-- Behind a failing query the copies are found by numerals with signs and zeros and by the
number in front of them, and other texts are refused. -/
theorem copies_found_by_numbers :
    let contents : Databases Database :=
      ⟨.empty, .ofTables
        [⟨"copies", [⟨"id", .integer⟩, ⟨"note", .text⟩],
          [[.integer 7, .text "signed"], [.integer 3, .null]]⟩] []⟩
    let session : Session Handle :=
      ⟨contents.opened, ⟨[⟨"copies", ["id", "note"]⟩]⟩, .empty, .empty, .memory, .memory⟩
    let requests : List Request := [.query "copies", .query "copies w:nope = 1", .row "2"]
    session.Opened ∧ (∃ later, session.afterRequests [] = later ∧
      later.row "x" = .error (.invalidRowNumber "x") ∧ later.row "0" = .error .noResults) ∧
    ∃ later, session.afterRequests requests = later ∧
      later.row " 1x " = .error (.invalidRowNumber "1x") ∧
      later.row "-1" = .error (.outOfRange (-1) 2) ∧
      later.row "+01" = .ok ⟨[("id", .integer 3), ("note", .null)]⟩ ∧
      later.row "+01" = later.row "1" ∧
      later.row (String.ofList ((Rendering.Cell.right "1").lineAt .standard 3 0)) =
        .ok ⟨[("id", .integer 3), ("note", .null)]⟩ := by
  intro contents session requests
  have opened : session.Opened := by
    have known : contents.opened.catalog.result.toOption = some session.catalog := by
      cbv
    obtain ⟨catalog, reflected⟩ := contents.exists_catalog_opened
    rw [reflected] at known
    exact ⟨reflected.trans (congrArg Except.ok (Option.some.inj known)), rfl⟩
  have last : session.lastAnswer? requests = some ("copies",
      ⟨⟨"copies", ["id", "note"]⟩, .secondary, ["id", "note"],
        [⟨["id", "note"], [.integer 7, .text "signed"]⟩,
          ⟨["id", "note"], [.integer 3, .null]⟩]⟩) := by
    decide +kernel
  have unchosen : (session.afterRequests requests).choice = .empty := by
    decide +kernel
  have noLetter : ∀ value, Text.Numeral (Text.trim "x".toList) value →
      ¬(Text.minInt64 ≤ value ∧ value ≤ Text.maxInt64) :=
    Text.int64?_eq_none_iff.mp rfl
  have noMixture : ∀ value, Text.Numeral (Text.trim " 1x ".toList) value →
      ¬(Text.minInt64 ≤ value ∧ value ≤ Text.maxInt64) :=
    Text.int64?_eq_none_iff.mp rfl
  have zero : Text.Numeral (Text.trim "0".toList) 0 :=
    Text.integer?_eq_some_iff.mp rfl
  have negative : Text.Numeral (Text.trim "-1".toList) (-1) :=
    Text.integer?_eq_some_iff.mp rfl
  have signed : Text.Numeral (Text.trim "+01".toList) 1 :=
    Text.integer?_eq_some_iff.mp rfl
  have plain : Text.Numeral (Text.trim "1".toList) 1 :=
    Text.integer?_eq_some_iff.mp rfl
  refine ⟨opened, ?_, ?_⟩
  · obtain ⟨later, reached, refused, numbered, -⟩ := row_numbers_find_rows opened []
    exact ⟨later, reached, refused "x" noLetter,
      (numbered "0" 0 zero (by decide)).1 rfl⟩
  · obtain ⟨later, reached, refused, numbered, drawn⟩ := row_numbers_find_rows opened requests
    obtain ⟨-, second, same⟩ := numbered "+01" 1 signed (by decide)
    obtain ⟨row, found, shown, -⟩ := (second _ _ last).2 (by decide)
    obtain rfl := Option.some.inj found
    obtain ⟨cell, there, number⟩ := drawn _ _ last (by decide) ["id"] 1 _ rfl
    rw [Rendering.cell?_resultGrid_zero] at there
    obtain rfl := Option.some.inj there
    rw [← reached, unchosen, reached] at shown number
    exact ⟨later, reached, refused " 1x " noMixture,
      (((numbered "-1" (-1) negative (by decide)).2.1 _ _ last).1).mpr (.inl (by decide)),
      shown, (same "1" plain).symm, number .standard 3⟩

end Session

end CardShell
