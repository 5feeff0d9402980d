import CardShell.Proofs.Sql.Expression
import CardShell.Proofs.Sql.NamedTable
import CardShell.Proofs.Text.Numerals

/-!
# The limit of a statement

The limit is the last part of a statement, and nothing may follow it.  So a text
that ends in a limit is a statement exactly when the text in front of the limit is one
that has no limit itself, and the two differ in their limits only: the rows under a
limit are the first ones of the rows without it.
-/

namespace CardShell.Sql

/-! ## The lexemes of a limit -/

/-- Digits are read as the rest of a number. -/
theorem foldl_step_digits {digits : List Char} (all : digits.all Char.isDigit = true)
    (reversed : List Char) (position offset : Nat) (finished : List Lexeme) :
    (digits.foldl Scan.step ⟨position, some ⟨.number, reversed, offset⟩, finished⟩).flush.finished =
      (Partial.lexeme ⟨.number, digits.reverse ++ reversed, offset⟩) :: finished := by
  induction digits generalizing reversed position with
  | nil => rfl
  | cons digit digits later =>
      rw [List.all_cons, Bool.and_eq_true] at all
      have word : isWordChar digit = true := by
        simp [isWordChar, Char.isAlphanum, all.1]
      have step : Scan.step ⟨position, some ⟨.number, reversed, offset⟩, finished⟩ digit =
          ⟨position + digit.utf8Size, some ⟨.number, digit :: reversed, offset⟩, finished⟩ := by
        simp [Scan.step, Partial.extendMode?, word]
      rw [List.foldl_cons, step, later all.2, List.reverse_cons, List.append_assoc]
      rfl

/-- Digits alone are a number. -/
theorem isNumber_of_digits {digits : List Char} (notNil : digits ≠ [])
    (all : digits.all Char.isDigit = true) : isNumber digits = true := by
  have apartFrom {special : Char} (notDigit : special.isDigit = false) : special ∉ digits := by
    intro member
    rw [List.all_eq_true.mp all special member] at notDigit
    contradiction
  have unmarked : ∀ digit ∈ digits, isExponentMark digit = false := by
    intro digit member
    rw [isExponentMark, Bool.or_eq_false_iff, beq_eq_false_iff_ne, beq_eq_false_iff_ne]
    constructor
    · rintro rfl
      exact apartFrom (by decide) member
    · rintro rfl
      exact apartFrom (by decide) member
  have undotted : ∀ digit ∈ digits, (digit != '.') = true := by
    intro digit member
    rw [bne_iff_ne]
    rintro rfl
    exact apartFrom (by decide) member
  have mantissa : digits.takeWhile (fun digit => !isExponentMark digit) = digits :=
    List.takeWhile_eq_self_iff.mpr fun digit member => by rw [unmarked digit member, Bool.not_false]
  have exponent : digits.dropWhile (fun digit => !isExponentMark digit) = [] :=
    List.dropWhile_eq_nil_iff.mpr fun digit member => by rw [unmarked digit member, Bool.not_false]
  have whole : digits.takeWhile (· != '.') = digits := List.takeWhile_eq_self_iff.mpr undotted
  have fraction : digits.dropWhile (· != '.') = [] := List.dropWhile_eq_nil_iff.mpr undotted
  have none : digits.any isExponentMark = false := List.any_eq_false.mpr fun digit member => by
    rw [unmarked digit member]
    exact Bool.false_ne_true
  simp [isNumber, mantissa, exponent, whole, fraction, none, all, notNil]

/-- The characters of digits are neither signs nor blanks. -/
theorem startMode_of_isDigit {digit : Char} (isDigit : digit.isDigit = true) :
    isSpace digit = false ∧ Partial.startMode digit = .number := by
  constructor
  · rw [isSpace, List.contains_eq_mem, decide_eq_false_iff_not]
    intro blank
    simp only [List.mem_cons, List.not_mem_nil, or_false] at blank
    rcases blank with rfl | rfl | rfl | rfl | rfl <;> exact absurd isDigit (by decide)
  · rw [Partial.startMode, if_pos isDigit]

/-- The keyword and the number of a limit. -/
def limitLexemes (count : Nat) : List Lexeme :=
  [⟨.word "LIMIT", "LIMIT", 1⟩, ⟨.number (Text.ofNat count), Text.ofNat count, 7⟩]

theorem lexemes_limit (count : Nat) :
    lexemes (" LIMIT ".toList ++ Text.digits count) = limitLexemes count := by
  have opening : " LIMIT ".toList.foldl Scan.step .start =
      ⟨7, none, [⟨.word "LIMIT", "LIMIT", 1⟩]⟩ := by
    rfl
  obtain ⟨notNil, all⟩ := Text.digits_iff.mp (Text.digits_digits count)
  have number := isNumber_of_digits notNil all
  rw [lexemes, List.foldl_append, opening, limitLexemes, Text.ofNat]
  generalize Text.digits count = digits at notNil all number ⊢
  cases digits with
  | nil => contradiction
  | cons digit digits =>
      rw [List.all_cons, Bool.and_eq_true] at all
      have first : Scan.step ⟨7, none, [⟨.word "LIMIT", "LIMIT", 1⟩]⟩ digit =
          ⟨7 + digit.utf8Size, some ⟨.number, [digit], 7⟩, [⟨.word "LIMIT", "LIMIT", 1⟩]⟩ := by
        rcases startMode_of_isDigit all.1 with ⟨notSpace, mode⟩
        simp only [Scan.step, Scan.begin, notSpace, mode, Bool.false_eq_true, if_false]
      rw [List.foldl_cons, first, foldl_step_digits all.2]
      simp [Partial.lexeme, Partial.token, Partial.spelling, number]

theorem keyword?_limit : keyword? "LIMIT" = some .limit := by
  decide +kernel

/-! ## Reading a limit -/

/-- A limit is no part of a condition. -/
theorem Pending.step?_limit (pending : Pending) {lexeme : Lexeme} (is : lexeme.Is .limit) :
    pending.step? lexeme = none := by
  obtain ⟨text, word⟩ := Token.exists_word_of_keyword? is
  have unnamed := Token.name?_eq_none_of_keyword? is (by decide)
  rw [Lexeme.Is, word] at is
  rw [word] at unnamed
  rcases pending with ⟨expected, level, outer⟩
  cases expected with
  | literal slot sign => cases sign <;> simp [step?, literal?, word, is]
  | _ => simp [step?, connective?, startTest?, word, is, unnamed]

/-- Whether the keyword of the limit has been read. -/
def Phase.isLast : Phase → Bool
  | .limit | .finished => true
  | _ => false

namespace Reader

/-- What one lexeme has to do with the limit of a statement: it belongs to some part in
front of the limit, or it is the keyword of the limit at a place where the statement
might end, or it is the number behind this keyword. -/
inductive Stepped (reader : Reader) (lexeme : Lexeme) : Reader → Prop
  | part {next : Reader} : ¬lexeme.Is .limit → reader.phase.isLast = false →
      next.phase.isLast = false → next.statement.limit = reader.statement.limit →
      Stepped reader lexeme next
  | limit {statement : Statement ColumnName} : lexeme.Is .limit →
      reader.phase.isLast = false → reader.finish? = some statement →
      Stepped reader lexeme ⟨.limit, statement⟩
  | count {digits : String} {count : Nat} : reader.phase = .limit →
      lexeme.token = .number digits → Text.natural? digits.toList = some count →
      Stepped reader lexeme ⟨.finished, { reader.statement with limit := some count }⟩

section Steps

variable {lexeme : Lexeme} {phase : Phase} {statement : Statement ColumnName} {next : Reader}

/-- Any other keyword is not that of the limit. -/
theorem stepped_of_other {keyword : Keyword} (found : lexeme.token.keyword? = some keyword)
    (other : keyword ≠ .limit) (early : phase.isLast = false) (later : next.phase.isLast = false)
    (same : next.statement.limit = statement.limit) : Stepped ⟨phase, statement⟩ lexeme next :=
  .part (fun limit => other (Option.some.inj (found.symm.trans limit))) early later same

/-- A lexeme that is no word is not the keyword of the limit. -/
theorem stepped_of_sign (sign : lexeme.token.keyword? = none) (early : phase.isLast = false)
    (later : next.phase.isLast = false) (same : next.statement.limit = statement.limit) :
    Stepped ⟨phase, statement⟩ lexeme next := by
  refine .part (fun limit => ?_) early later same
  rw [Lexeme.Is, sign] at limit
  contradiction

theorem stepped_of_keyword {keyword : Keyword} {later : Phase}
    (found : (if lexeme.token.keyword? = some keyword then
      some (goTo ⟨phase, statement⟩ later) else none) = some next)
    (other : keyword ≠ .limit) (early : phase.isLast = false) (notLast : later.isLast = false) :
    Stepped ⟨phase, statement⟩ lexeme next := by
  split at found
  · rename_i is
    cases found
    exact stepped_of_other is other early notLast rfl
  · contradiction

/-- A keyword of a later part stands where the statement might end. -/
theorem stepped_of_nextPart? {parts : List Keyword} {other : Statement ColumnName}
    (early : phase.isLast = false) (ends : finish? ⟨phase, statement⟩ = some other)
    (same : other.limit = statement.limit)
    (begun : nextPart? ⟨phase, other⟩ parts lexeme.token = some next) :
    Stepped ⟨phase, statement⟩ lexeme next := by
  rw [nextPart?] at begun
  split at begun
  · rename_i found
    split at begun
    · split at begun
      · cases begun
        exact stepped_of_other found (by decide) early rfl same
      · cases begun
        exact stepped_of_other found (by decide) early rfl same
      · cases begun
        exact stepped_of_other found (by decide) early rfl same
      · cases begun
        exact .limit found early ends
      · contradiction
    · contradiction
  · contradiction

/-- A name is not the keyword of the limit. -/
theorem stepped_of_name {make : String → Reader} (early : phase.isLast = false)
    (later : ∀ word, (make word).phase.isLast = false)
    (same : ∀ word, (make word).statement.limit = statement.limit)
    (found : lexeme.token.name?.map make = some next) :
    Stepped ⟨phase, statement⟩ lexeme next := by
  obtain ⟨word, named, rfl⟩ := Option.map_eq_some_iff.mp found
  refine .part (fun limit => ?_) early (later word) (same word)
  rw [Token.name?_eq_none_of_keyword? limit (by decide)] at named
  contradiction

/-- Every lexeme that is read is one of these three. -/
theorem stepped_of_step? (stepped : step? ⟨phase, statement⟩ lexeme = some next) :
    Stepped ⟨phase, statement⟩ lexeme next := by
  cases phase with
  | select => exact stepped_of_keyword stepped (by decide) rfl rfl
  | star =>
      simp only [step?] at stepped
      split at stepped
      · rename_i star
        cases stepped
        exact stepped_of_sign (by rw [star]; rfl) rfl rfl rfl
      · contradiction
  | source => exact stepped_of_keyword stepped (by decide) rfl rfl
  | table => exact stepped_of_name rfl (fun _ => rfl) (fun _ => rfl) stepped
  | clause => exact stepped_of_nextPart? rfl rfl rfl stepped
  | condition pending =>
      simp only [step?] at stepped
      split at stepped
      · rename_i found
        cases stepped
        refine .part (fun limit => ?_) rfl rfl rfl
        rw [pending.step?_limit limit] at found
        contradiction
      · obtain ⟨condition, finished, begun⟩ := Option.bind_eq_some_iff.mp stepped
        have ends : finish? ⟨.condition pending, statement⟩ =
            some { statement with condition := some condition } := by
          simp only [finish?, finished, Option.map_some]
        exact stepped_of_nextPart? rfl ends rfl begun
  | groupBy => exact stepped_of_keyword stepped (by decide) rfl rfl
  | groupTerm => exact stepped_of_name rfl (fun _ => rfl) (fun _ => rfl) stepped
  | groupQualified qualifier offset =>
      exact stepped_of_name rfl (fun _ => rfl) (fun _ => rfl) stepped
  | groupEnd term =>
      simp only [step?] at stepped
      split at stepped
      · rename_i dot _
        cases stepped
        exact stepped_of_sign (by rw [dot]; rfl) rfl rfl rfl
      · rename_i comma
        cases stepped
        exact stepped_of_sign (by rw [comma]; rfl) rfl rfl rfl
      · exact stepped_of_nextPart? rfl rfl rfl stepped
  | orderBy => exact stepped_of_keyword stepped (by decide) rfl rfl
  | orderTerm => exact stepped_of_name rfl (fun _ => rfl) (fun _ => rfl) stepped
  | orderQualified qualifier offset =>
      exact stepped_of_name rfl (fun _ => rfl) (fun _ => rfl) stepped
  | orderEnd term =>
      simp only [step?] at stepped
      split at stepped
      · rename_i dot _
        cases stepped
        exact stepped_of_sign (by rw [dot]; rfl) rfl rfl rfl
      · rename_i comma
        cases stepped
        exact stepped_of_sign (by rw [comma]; rfl) rfl rfl rfl
      · rename_i asc _ _
        cases stepped
        exact stepped_of_other asc (by decide) rfl rfl rfl
      · rename_i desc _ _
        cases stepped
        exact stepped_of_other desc (by decide) rfl rfl rfl
      · exact stepped_of_nextPart? rfl rfl rfl stepped
  | orderDirected =>
      simp only [step?] at stepped
      split at stepped
      · rename_i comma
        cases stepped
        exact stepped_of_sign (by rw [comma]; rfl) rfl rfl rfl
      · exact stepped_of_nextPart? rfl rfl rfl stepped
  | limit =>
      simp only [step?] at stepped
      split at stepped
      · rename_i number
        obtain ⟨count, value, rfl⟩ := Option.map_eq_some_iff.mp stepped
        exact .count rfl number value
      · contradiction
  | finished => contradiction

/-- The keyword of the limit is read wherever the statement might end. -/
theorem step?_limit {other : Statement ColumnName} (is : lexeme.Is .limit)
    (early : phase.isLast = false) (ends : finish? ⟨phase, statement⟩ = some other) :
    step? ⟨phase, statement⟩ lexeme = some ⟨.limit, other⟩ := by
  obtain ⟨text, word⟩ := Token.exists_word_of_keyword? is
  have refused (pending : Pending) := pending.step?_limit is
  rw [Lexeme.Is, word] at is
  cases phase with
  | condition pending =>
      obtain ⟨condition, finished, rfl⟩ := Option.map_eq_some_iff.mp ends
      simp [step?, refused, finished, nextPart?, word, is, goTo]
  | clause => cases ends; simp [step?, nextPart?, word, is, goTo]
  | groupEnd column => cases ends; simp [step?, nextPart?, word, is, goTo]
  | orderEnd column => cases ends; simp [step?, nextPart?, word, is, goTo]
  | orderDirected => cases ends; simp [step?, nextPart?, word, is, goTo]
  | _ => contradiction

end Steps

variable {reader next : Reader} {lexemes : List Lexeme}

/-- A limit has been read exactly when nothing may follow. -/
def Settled (reader : Reader) : Prop :=
  reader.statement.limit.isSome = true ↔ reader.phase = .finished

theorem Settled.limit_eq_none (settled : reader.Settled) (early : reader.phase.isLast = false) :
    reader.statement.limit = none := by
  rw [← Option.not_isSome_iff_eq_none]
  intro limited
  rw [settled.mp limited] at early
  contradiction

/-- Where a statement may end, its limit is what has been read. -/
theorem limit_of_finish? {statement : Statement ColumnName}
    (ends : reader.finish? = some statement) :
    statement.limit = reader.statement.limit := by
  rw [finish?] at ends
  split at ends
  case h_4 =>
    obtain ⟨condition, -, rfl⟩ := Option.map_eq_some_iff.mp ends
    rfl
  all_goals cases ends
  all_goals rfl

theorem Settled.step? {lexeme : Lexeme} (settled : reader.Settled)
    (stepped : reader.step? lexeme = some next) : next.Settled := by
  cases stepped_of_step? stepped with
  | part _ early notLast same =>
      have none : next.statement.limit = none := same.trans (settled.limit_eq_none early)
      refine iff_of_false (by rw [none]; nofun) fun finished => ?_
      rw [finished] at notLast
      contradiction
  | @limit statement _ early ends =>
      have none : statement.limit = none :=
        (limit_of_finish? ends).trans (settled.limit_eq_none early)
      exact iff_of_false (by rw [none]; nofun) nofun
  | count _ _ _ => exact iff_of_true rfl rfl

/-- Read lexemes one by one. -/
def read? (lexemes : List Lexeme) (reader : Reader) : Option Reader :=
  lexemes.foldlM step? reader

theorem read?_cons (lexeme : Lexeme) (lexemes : List Lexeme) (reader : Reader) :
    reader.read? (lexeme :: lexemes) = (reader.step? lexeme).bind (read? lexemes) :=
  rfl

theorem read?_append (left right : List Lexeme) (reader : Reader) :
    reader.read? (left ++ right) = (reader.read? left).bind (read? right) :=
  List.foldlM_append

/-- The text of a statement shows in failures only. -/
theorem foldlM_step_eq_ok_iff {sql : String} :
    lexemes.foldlM (step sql) reader = .ok next ↔
      (∀ lexeme ∈ lexemes, lexeme.token ≠ .illegal) ∧ reader.read? lexemes = some next := by
  induction lexemes generalizing reader with
  | nil => simp [read?, pure, Except.pure]
  | cons lexeme lexemes later =>
      have first {middle : Reader} : reader.step sql lexeme = .ok middle ↔
          lexeme.token ≠ .illegal ∧ reader.step? lexeme = some middle := by
        rw [step]
        split
        · simp_all
        · split <;> simp_all
      rw [List.foldlM_cons, read?_cons, List.forall_mem_cons, Option.bind_eq_some_iff]
      refine Except.bind_eq_ok_iff.trans ?_
      simp only [first, later]
      constructor
      · rintro ⟨middle, ⟨legal, stepped⟩, allLegal, rest⟩
        exact ⟨⟨legal, allLegal⟩, middle, stepped, rest⟩
      · rintro ⟨⟨legal, allLegal⟩, middle, stepped, rest⟩
        exact ⟨middle, ⟨legal, stepped⟩, allLegal, rest⟩

theorem Settled.read? (settled : reader.Settled) (read : reader.read? lexemes = some next) :
    next.Settled := by
  induction lexemes generalizing reader with
  | nil =>
      cases read
      exact settled
  | cons lexeme lexemes later =>
      rw [read?_cons] at read
      obtain ⟨middle, first, rest⟩ := Option.bind_eq_some_iff.mp read
      exact later (settled.step? first) rest

/-- Without the keyword of the limit no limit is read. -/
theorem isLast_read? (without : ∀ lexeme ∈ lexemes, ¬lexeme.Is .limit)
    (early : reader.phase.isLast = false) (read : reader.read? lexemes = some next) :
    next.phase.isLast = false := by
  induction lexemes generalizing reader with
  | nil =>
      cases read
      exact early
  | cons lexeme lexemes later =>
      rcases List.forall_mem_cons.mp without with ⟨notLimit, without⟩
      rw [read?_cons] at read
      obtain ⟨middle, first, rest⟩ := Option.bind_eq_some_iff.mp read
      cases stepped_of_step? first with
      | part _ _ notLast _ => exact later without notLast rest
      | limit is _ _ => contradiction
      | count last _ _ =>
          rw [last] at early
          contradiction

/-- A limit is read exactly where a statement without one might end. -/
theorem read?_limit_iff (settled : reader.Settled) {count distance : Nat}
    {statement : Statement ColumnName} :
    (reader.read? ((limitLexemes count).map (Lexeme.moved distance))).bind finish? =
        some statement ↔
      ∃ before, reader.finish? = some before ∧ before.limit = none ∧
        statement = { before with limit := some count } := by
  have is : (Lexeme.moved distance ⟨.word "LIMIT", "LIMIT", 1⟩).Is .limit := keyword?_limit
  have value : Text.natural? (Text.ofNat count).toList = some count := by
    rw [Text.ofNat, String.toList_ofList, Text.natural?_digits]
  have counted (before : Statement ColumnName) :
      step? ⟨.limit, before⟩
          (Lexeme.moved distance ⟨.number (Text.ofNat count), Text.ofNat count, 7⟩) =
        some ⟨.finished, { before with limit := some count }⟩ := by
    simp only [step?, Lexeme.moved, value, Option.map_some]
  rw [limitLexemes, List.map_cons, List.map_singleton, read?_cons]
  constructor
  · intro read
    obtain ⟨last, read, finished⟩ := Option.bind_eq_some_iff.mp read
    obtain ⟨middle, first, second⟩ := Option.bind_eq_some_iff.mp read
    cases stepped_of_step? first with
    | part notLimit _ _ _ => contradiction
    | @limit before _ early ends =>
        rw [read?_cons, counted] at second
        cases second
        cases finished
        exact ⟨before, ends, (limit_of_finish? ends).trans (settled.limit_eq_none early), rfl⟩
    | count _ other _ => contradiction
  · rintro ⟨before, ends, none, rfl⟩
    have unfinished : reader.phase ≠ .finished := by
      intro finished
      have limited := settled.mpr finished
      rw [← limit_of_finish? ends, none] at limited
      contradiction
    have early : reader.phase.isLast = false := by
      rcases reader with ⟨phase, statement⟩
      cases phase <;> first | rfl | contradiction
    rw [step?_limit is early ends, Option.bind_some, read?_cons, counted]
    rfl

end Reader

theorem Reader.settled_start : Reader.start.Settled :=
  iff_of_false nofun nofun

/-- A statement is read when its lexemes are no mistakes and lead to a place where it may
end. -/
theorem read_eq_ok_iff_read? {sql : String} {statement : Statement ColumnName} :
    read sql = .ok statement ↔
      (∀ lexeme ∈ lexemes sql.toList, lexeme.token ≠ .illegal) ∧
        (Reader.read? (lexemes sql.toList) .start).bind Reader.finish? = some statement := by
  simp only [read_eq_ok_iff, Reader.foldlM_step_eq_ok_iff, Option.bind_eq_some_iff, and_assoc,
    exists_and_left]

/-- In a text that has no mistakes, or whose front has none, a limit is cut from its
front. -/
theorem lexemes_append_limit {text : List Char} {count : Nat}
    (legal : (∀ lexeme ∈ lexemes (text ++ (" LIMIT ".toList ++ Text.digits count)),
        lexeme.token ≠ .illegal) ∨
      ∀ lexeme ∈ lexemes text, lexeme.token ≠ .illegal) :
    lexemes (text ++ (" LIMIT ".toList ++ Text.digits count)) =
      lexemes text ++ (limitLexemes count).map (Lexeme.moved (Text.byteLength text)) := by
  obtain ⟨-, all⟩ := Text.digits_iff.mp (Text.digits_digits count)
  have breaks : ∀ character ∈ (" LIMIT ".toList ++ Text.digits count).head?, Breaks character :=
    fun _ first => Option.some.inj first ▸ breaks_space
  have unquoted : ∀ character ∈ " LIMIT ".toList ++ Text.digits count,
      character ∉ ['\'', '"'] := by
    intro character member quote
    simp only [List.mem_cons, List.not_mem_nil, or_false] at quote
    rcases List.mem_append.mp member with opening | digit
    · rcases quote with rfl | rfl <;> simp at opening
    · have digit := List.all_eq_true.mp all character digit
      rcases quote with rfl | rfl <;> exact absurd digit (by decide)
  have apart : Apart text (" LIMIT ".toList ++ Text.digits count) := by
    rcases legal with legal | legal
    · exact apart_of_legal legal breaks unquoted
    · exact apart_of_breaks legal breaks
  rw [lexemes_append apart, lexemes_limit]

/-- A text that ends in a limit is a statement when the text in front of the limit is a
statement without one. -/
theorem read_limit_iff {sql : String} {count : Nat} {statement : Statement ColumnName} :
    read (sql ++ " LIMIT " ++ Text.ofNat count) = .ok statement ↔
      ∃ before, read sql = .ok before ∧ before.limit = none ∧
        statement = { before with limit := some count } := by
  have written : (sql ++ " LIMIT " ++ Text.ofNat count).toList =
      sql.toList ++ (" LIMIT ".toList ++ Text.digits count) := by
    simp [Text.ofNat]
  rw [read_eq_ok_iff_read?, written]
  constructor
  · rintro ⟨legal, read⟩
    have cut := lexemes_append_limit (.inl legal)
    rw [cut] at legal read
    rw [Reader.read?_append] at read
    obtain ⟨last, read, finished⟩ := Option.bind_eq_some_iff.mp read
    obtain ⟨reader, front, behind⟩ := Option.bind_eq_some_iff.mp read
    have settled := Reader.settled_start.read? front
    obtain ⟨before, ends, none, same⟩ :=
      (Reader.read?_limit_iff settled).mp (Option.bind_eq_some_iff.mpr ⟨last, behind, finished⟩)
    refine ⟨before, read_eq_ok_iff_read?.mpr ⟨?_, ?_⟩, none, same⟩
    · exact fun lexeme member => legal lexeme (List.mem_append_left _ member)
    · rw [front, Option.bind_some, ends]
  · rintro ⟨before, ok, none, same⟩
    obtain ⟨legal, read⟩ := read_eq_ok_iff_read?.mp ok
    obtain ⟨reader, front, ends⟩ := Option.bind_eq_some_iff.mp read
    have settled := Reader.settled_start.read? front
    rw [lexemes_append_limit (.inr legal), Reader.read?_append, front, Option.bind_some]
    refine ⟨fun lexeme member => ?_,
      (Reader.read?_limit_iff settled).mpr ⟨before, ends, none, same⟩⟩
    rcases List.mem_append.mp member with inFront | inLimit
    · exact legal lexeme inFront
    · obtain ⟨other, found, rfl⟩ := List.mem_map.mp inLimit
      simp only [limitLexemes, List.mem_cons, List.not_mem_nil, or_false] at found
      rcases found with rfl | rfl <;> exact nofun

end CardShell.Sql

namespace CardShell.Database

variable {table : Table} {sql : String}

/-- A column that is found in one statement is found in any other. -/
theorem resolveColumn_of_ok (other : String) {column : Sql.ColumnName} {field : Field}
    (ok : resolveColumn table sql column = .ok field) :
    resolveColumn table other column = .ok field := by
  simp only [resolveColumn] at ok ⊢
  split at ok
  · exact ok
  · contradiction

theorem resolve_condition_of_ok (other : String) {condition : Sql.Condition Sql.ColumnName}
    {resolved : Sql.Condition Field}
    (ok : condition.resolve (resolveColumn table sql) = .ok resolved) :
    condition.resolve (resolveColumn table other) = .ok resolved :=
  Sql.Condition.resolve_of_imp (fun _ _ => resolveColumn_of_ok other) ok

/-- Names are resolved alike whatever the limit is. -/
theorem resolve_limit {statement : Sql.Statement Sql.ColumnName} {resolved : Sql.Statement Field}
    (ok : resolve table sql statement = .ok resolved) (other : String) (limit : Option Nat) :
    resolve table other { statement with limit } = .ok { resolved with limit } := by
  rcases Except.bind_eq_ok_iff.mp ok with ⟨condition, conditionOk, ok⟩
  rcases Except.bind_eq_ok_iff.mp ok with ⟨orderings, orderingsOk, ok⟩
  rcases Except.bind_eq_ok_iff.mp ok with ⟨groupings, groupingsOk, ok⟩
  cases ok
  have conditions : statement.condition.mapM (Sql.Condition.resolve (resolveColumn table other)) =
      .ok condition := by
    cases asked : statement.condition with
    | none =>
        rw [asked] at conditionOk
        exact conditionOk
    | some written =>
        rw [asked, Option.mapM_some] at conditionOk
        rcases Except.map_eq_ok_iff.mp conditionOk with ⟨found, resolves, rfl⟩
        rw [Option.mapM_some, resolve_condition_of_ok other resolves]
        rfl
  have terms : (statement.orderings.mapM fun term =>
      (resolveColumn table other term.column).map fun field =>
        (⟨field, term.descending⟩ : Sql.OrderTerm Field)) = .ok orderings := by
    apply Except.mapM_eq_ok_of_imp _ orderingsOk
    intro term value found
    rcases Except.map_eq_ok_iff.mp found with ⟨field, resolves, rfl⟩
    rw [resolveColumn_of_ok other resolves]
    rfl
  have groups : statement.groupings.mapM (resolveColumn table other) = .ok groupings :=
    Except.mapM_eq_ok_of_imp (fun _ _ => resolveColumn_of_ok other) groupingsOk
  simp only [resolve, conditions, terms, groups]
  rfl

theorem limit_resolve {statement : Sql.Statement Sql.ColumnName} {resolved : Sql.Statement Field}
    (ok : resolve table sql statement = .ok resolved) : resolved.limit = statement.limit := by
  rcases Except.bind_eq_ok_iff.mp ok with ⟨_, -, ok⟩
  rcases Except.bind_eq_ok_iff.mp ok with ⟨_, -, ok⟩
  rcases Except.bind_eq_ok_iff.mp ok with ⟨_, -, ok⟩
  cases ok
  rfl

/-- Under a limit a statement selects the first of the rows that it selects without
one. -/
theorem select_limit {statement : Sql.Statement Field} (none : statement.limit = none)
    (count : Nat) (rows : List (List Value)) :
    select { statement with limit := some count } rows = (select statement rows).take count := by
  simp only [select, none]

/-- A text that ends in a limit runs when the text in front of the limit runs and has no
limit itself, and yields the first of its rows. -/
theorem run_limit_iff {database : Database} {count : Nat} (fits : count ≤ Text.maxInt64)
    {columns : List String} {rows : List (List Value)} :
    database.run (sql ++ " LIMIT " ++ Text.ofNat count) = .ok (columns, rows) ↔
      ∃ statement all, Sql.read sql = .ok statement ∧ statement.limit = none ∧
        database.run sql = .ok (columns, all) ∧ all.take count = rows := by
  constructor
  · intro ok
    rcases run_eq_ok_iff.mp ok with
      ⟨statement, table, resolved, read, found, resolves, -, rfl, rfl⟩
    rcases Sql.read_limit_iff.mp read with ⟨before, readBefore, none, rfl⟩
    have resolvesBefore : resolve table sql before = .ok { resolved with limit := before.limit } :=
      resolve_limit resolves sql before.limit
    have limited : resolved.limit = some count := limit_resolve resolves
    refine ⟨before, _, readBefore, none,
      run_eq_ok_iff.mpr
        ⟨before, table, _, readBefore, found, resolvesBefore, by rw [none]; rfl, rfl, rfl⟩, ?_⟩
    rw [← select_limit none, ← limited]
  · rintro ⟨statement, all, read, none, ok, rfl⟩
    rcases run_eq_ok_iff.mp ok with ⟨same, table, resolved, again, found, resolves, -, rfl, rfl⟩
    cases read.symm.trans again
    have limited := select_limit ((limit_resolve resolves).trans none) count table.rows
    exact run_eq_ok_iff.mpr ⟨_, table, _, Sql.read_limit_iff.mpr ⟨statement, read, none, rfl⟩,
      found, resolve_limit resolves _ (some count), decide_eq_true fits, rfl, limited⟩

end CardShell.Database
