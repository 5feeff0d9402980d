import CardShell.Proofs.Shell.Run
import CardShell.Proofs.Text.Trimming

/-!
# Lines as calls of the session

A line is trimmed before it is cut, its argument is trimmed behind the name, and what the
session is asked with an argument trims it once more.  None of this is seen from outside:
however a line is ornamented and padded, it comes to what the session answers when it is
asked with the argument as it was written.
-/

namespace CardShell

theorem Text.trim_trim (text : List Char) : trim (trim text) = trim text :=
  trim_of_trimmed (trimmed_trim text)

/-! ## Arguments -/

/-- Blanks around an instruction do not matter. -/
theorem Instruction.read_trimString (input : String) :
    read (Text.trimString input) = read input := by
  rw [read, read, Text.trimString, String.toList_ofList, Text.trim_trim]

namespace Session

variable {δ : Type}

theorem query_trimString [Engine δ] (session : Session δ) (input : String) :
    session.query (Text.trimString input) = session.query input := by
  simp only [query, evaluate, Instruction.read_trimString]

theorem row_trimString (session : Session δ) (input : String) :
    session.row (Text.trimString input) = session.row input := by
  simp only [row, Text.trimString, String.toList_ofList, Text.trim_trim]

theorem columns_trimString (session : Session δ) (input : String) :
    session.columns (Text.trimString input) = session.columns input := by
  simp only [columns, Text.trimString, String.toList_ofList, Text.trim_trim]

theorem databasePath_trimString (session : Session δ) (input : String) :
    session.databasePath (Text.trimString input) = session.databasePath input := by
  simp only [databasePath, Text.trimString, String.toList_ofList, Text.trim_trim]

end Session

/-! ## Names of commands -/

namespace Command

/-- The names that stand for a command. -/
def names : List String :=
  ["query", "q", "show", "s", "cols", "sql", "entities", "help", "?", "exit", "quit"]

/-- Any other name is unknown, and is told as it is. -/
theorem ofName_eq_unknown_iff {name argument other : String} :
    ofName name argument = .unknown other ↔ other = name ∧ name ∉ names := by
  unfold ofName
  split
  all_goals simp_all [names, eq_comm]

theorem ofName_ne_empty (name argument : String) : ofName name argument ≠ .empty := by
  unfold ofName
  split
  all_goals simp

/-- A name with signs and perhaps a mark in front of it. -/
def ornamented (signs : Nat) (marked : Bool) (name : List Char) : List Char :=
  List.replicate signs '%' ++ ((if marked then ['m', '_'] else []) ++ name)

/-- A word is a name behind ornaments: behind a mark, or behind none where the name itself
starts with nothing that could be taken for an ornament. -/
def Adorns (word name : List Char) : Prop :=
  ∃ signs, word = ornamented signs true name ∨
    word = ornamented signs false name ∧ name.head? ≠ some '%' ∧ ¬['m', '_'] <+: name

/-- All signs in front of a word are dropped. -/
theorem dropWhile_replicate_append (signs : Nat) {stem : List Char}
    (plain : stem.head? ≠ some '%') :
    (List.replicate signs '%' ++ stem).dropWhile (· == '%') = stem := by
  have all : ∀ character ∈ List.replicate signs '%', (character == '%') = true := by
    intro character member
    rw [List.eq_of_mem_replicate member]
    rfl
  rw [List.dropWhile_append_of_pos all]
  cases stem with
  | nil => rfl
  | cons first stem =>
      have different : first ≠ '%' := fun same => plain (congrArg some same)
      simp [different]

theorem exists_replicate_append (word : List Char) :
    ∃ signs, word = List.replicate signs '%' ++ word.dropWhile (· == '%') ∧
      (word.dropWhile (· == '%')).head? ≠ some '%' := by
  have front : word.takeWhile (· == '%') =
      List.replicate (word.takeWhile (· == '%')).length '%' := by
    apply List.eq_replicate_of_mem
    intro character member
    have sign := List.mem_takeWhile_imp (p := (· == '%')) member
    exact beq_iff_eq.mp sign
  refine ⟨(word.takeWhile (· == '%')).length, ?_, ?_⟩
  · rw [← front, List.takeWhile_append_dropWhile]
  · intro first
    have stopped := List.head?_dropWhile_not (· == '%') word
    rw [first] at stopped
    exact Bool.noConfusion stopped

/-- What is left of a word without its ornaments is the only name behind them. -/
theorem plainName_eq_iff {word name : List Char} : plainName word = name ↔ Adorns word name := by
  constructor
  · intro plain
    rcases exists_replicate_append word with ⟨signs, shape, free⟩
    rw [plainName] at plain
    split at plain
    · next rest =>
        rw [rest, plain] at shape
        exact ⟨signs, .inl shape⟩
    · next unmarked =>
        rw [plain] at shape free unmarked
        refine ⟨signs, .inr ⟨shape, free, ?_⟩⟩
        rintro ⟨rest, same⟩
        exact unmarked rest same.symm
  · rintro ⟨signs, rfl | ⟨rfl, free, unmarked⟩⟩
    · have rest : (ornamented signs true name).dropWhile (· == '%') = 'm' :: '_' :: name :=
        dropWhile_replicate_append signs (by simp)
      simp only [plainName, rest]
    · have rest : (ornamented signs false name).dropWhile (· == '%') = name :=
        dropWhile_replicate_append signs free
      rw [plainName, rest]
      split
      · next marked => exact absurd ⟨_, rfl⟩ unmarked
      · rfl

/-! ## Reading a line -/

theorem read_eq_empty_iff {line : String} :
    read line = .empty ↔
      Text.trim line.toList = [] ∨ (Text.trim line.toList).head? = some '#' := by
  rw [read]
  generalize Text.trim line.toList = text
  unfold ofTrimmed
  split
  · simp
  · simp
  · next notNil noComment =>
      constructor
      · intro empty
        exact absurd empty (ofName_ne_empty _ _)
      · rintro (nil | comment)
        · exact absurd nil notNil
        · rcases List.head?_eq_some_iff.mp comment with ⟨rest, shape⟩
          exact absurd shape (noComment rest)

theorem read_of_ne_empty {line : String} (filled : read line ≠ .empty) :
    read line = ofName (String.ofList (plainName (Text.firstWord (Text.trim line.toList))))
      (String.ofList (Text.trim (Text.afterFirstWord (Text.trim line.toList)))) := by
  rw [read] at filled ⊢
  generalize Text.trim line.toList = text at filled ⊢
  unfold ofTrimmed at filled ⊢
  split at filled
  · contradiction
  · contradiction
  · rfl

/-- A word at the start of a line is a command with what follows it as its argument. -/
theorem read_word {before word rest : List Char} (padding : Text.Blank before)
    (notNil : word ≠ []) (visible : ∀ character ∈ word, Text.isBlank character = false)
    (noComment : word.head? ≠ some '#')
    (follows : ∀ character ∈ rest.head?, Text.isBlank character = true) :
    read (String.ofList (before ++ word ++ rest)) =
      ofName (String.ofList (plainName word)) (String.ofList (Text.trim rest)) := by
  have trimmed : Text.trim (String.ofList (before ++ word ++ rest)).toList =
      word ++ Text.trimEnd rest := by
    rw [String.toList_ofList, List.append_assoc, Text.trim_blank_append padding,
      Text.trim_word_append notNil visible]
  have filled : read (String.ofList (before ++ word ++ rest)) ≠ .empty := by
    rw [Ne, read_eq_empty_iff, trimmed]
    rcases List.exists_cons_of_ne_nil notNil with ⟨first, tail, rfl⟩
    rintro (nil | comment)
    · contradiction
    · exact noComment comment
  rcases Text.firstWord_append visible (Text.trimEnd rest) (fun character first =>
    follows character (Text.head?_of_head?_trimEnd first)) with ⟨first, behind⟩
  rw [read_of_ne_empty filled, trimmed, first, behind, Text.trim_trimEnd]

/-- A line with a command: an ornamented name between blanks and an argument of any form. -/
def line (before : List Char) (signs : Nat) (marked : Bool) (name : String) (blank : Char)
    (argument : String) : String :=
  String.ofList (before ++ ornamented signs marked name.toList ++ blank :: argument.toList)

/-- Names of commands are words that start with no ornament. -/
theorem plain_of_mem_names :
    ∀ name ∈ names, name.toList ≠ [] ∧
      (name.toList.all fun character => !Text.isBlank character) = true ∧
      name.toList.head? ≠ some '#' ∧ name.toList.head? ≠ some '%' ∧
      ¬['m', '_'] <+: name.toList := by
  intro name known
  simp only [names, List.mem_cons, List.not_mem_nil, or_false] at known
  rcases known with rfl | rfl | rfl | rfl | rfl | rfl | rfl | rfl | rfl | rfl | rfl
  all_goals decide

/-- A line is the command of its name, with its argument trimmed. -/
theorem read_line {before : List Char} (padding : Text.Blank before) (signs : Nat)
    (marked : Bool) {name : String} (known : name ∈ names) {blank : Char}
    (gap : Text.isBlank blank = true) (argument : String) :
    read (line before signs marked name blank argument) =
      ofName name (Text.trimString argument) := by
  rcases plain_of_mem_names name known with ⟨notNil, visible, noComment, unsigned, unmarked⟩
  have adorned : Adorns (ornamented signs marked name.toList) name.toList := by
    cases marked with
    | true => exact ⟨signs, .inl rfl⟩
    | false => exact ⟨signs, .inr ⟨rfl, unsigned, unmarked⟩⟩
  have single : Text.Blank [blank] := by
    intro character member
    rw [List.mem_singleton.mp member]
    exact gap
  have ornaments : ∀ character ∈ ornamented signs marked name.toList,
      Text.isBlank character = false := by
    intro character member
    rcases List.mem_append.mp member with sign | member
    · rw [List.eq_of_mem_replicate sign]
      decide
    · rcases List.mem_append.mp member with mark | letter
      · cases marked with
        | true =>
            have marks : ∀ character ∈ ['m', '_'], Text.isBlank character = false := by
              simp only [List.forall_mem_cons]
              exact ⟨by decide, by decide, by simp⟩
            exact marks character mark
        | false => contradiction
      · simpa using List.all_eq_true.mp visible character letter
  have first : (ornamented signs marked name.toList).head? ≠ some '#' := by
    cases signs with
    | zero => cases marked <;> simp [ornamented, noComment]
    | succ signs => simp [ornamented, List.replicate_succ]
  rw [line, read_word padding _ ornaments first]
  · rw [plainName_eq_iff.mpr adorned, String.ofList_toList, Text.trimString]
    exact congrArg (fun text => ofName name (String.ofList text))
      (Text.trim_blank_append single argument.toList)
  · intro character member
    cases member
    exact gap
  · simp [ornamented, notNil]

end Command

namespace Shell

variable {δ : Type} [Engine δ]

/-! ## Calls -/

/-- A line comes to what is called: its command has this effect and this outcome, and the
outcome is what any output gets. -/
structure Calls (shell : Shell δ) (input : String)
    (called : Shell δ × Noted Failure (Control × String)) : Prop where
  performs : shell.perform (Command.read input) = called
  delivers : ∀ sink, shell.runLine sink input =
    ⟨called.1, called.2.notices, deliver sink called.2.result⟩

theorem calls_of_read {shell : Shell δ} {input : String} {command : Command}
    {called : Shell δ × Noted Failure (Control × String)} (reads : Command.read input = command)
    (performs : shell.perform command = called) : shell.Calls input called := by
  constructor
  · rw [reads, performs]
  · intro sink
    rw [runLine, reads, performs]

section Asked

variable (shell : Shell δ) (argument : String)

theorem perform_query_trimString :
    shell.perform (.query (Text.trimString argument)) =
      ({ shell with session := (shell.session.query argument).1 },
        (shell.session.query argument).2.map fun report =>
          (.goOn, line (Rendering.result shell.measure report.columns report.rows))) := by
  simp only [perform, Session.query_trimString]

theorem perform_row_trimString :
    shell.perform (.row (Text.trimString argument)) =
      (shell, .ofExcept ((shell.session.row argument).map fun detail =>
        (.goOn, line (Rendering.detail detail)))) := by
  rw [← shell.session.row_trimString argument]
  rfl

theorem perform_columns_trimString :
    shell.perform (.columns (Text.trimString argument)) =
      (shell, .ofExcept ((shell.session.columns argument).map fun report =>
        (.goOn, line (Rendering.columnLists report.entity.columns report.chosen)))) := by
  rw [← shell.session.columns_trimString argument]
  rfl

theorem perform_database_trimString :
    shell.perform (.database (Text.trimString argument)) =
      (shell, .ofExcept ((shell.session.databasePath argument).bind fun path =>
        (shell.startOn path).map fun text => (.goOn, text))) := by
  rw [← shell.session.databasePath_trimString argument]
  generalize Text.trimString argument = name
  have performed : shell.perform (.database name) =
      (shell, .ofExcept ((shell.launch name).map fun text => (.goOn, text))) :=
    rfl
  rw [performed, launch]
  cases shell.session.databasePath name with
  | error failure => rfl
  | ok path => rfl

end Asked

/-- A line is empty when nothing but blanks or a comment is on it.  Any other line is the
command of the name in its first word, behind all signs and at most one mark, and it is
unknown exactly when that name stands for no command.  However the name is ornamented and
the line is padded, the line then comes to what the session answers to the argument as it
is written, with the same effect, the same notices and the same failure; where a command
takes no argument, none has any influence. -/
theorem lines_stand_for_calls (shell : Shell δ) :
    (∀ input, Command.read input = .empty ↔
      Text.trim input.toList = [] ∨ (Text.trim input.toList).head? = some '#') ∧
    (∀ input, Command.read input ≠ .empty →
      ∃ name : String,
        Command.Adorns (Text.firstWord (Text.trim input.toList)) name.toList ∧
        (∀ other : String,
          Command.Adorns (Text.firstWord (Text.trim input.toList)) other.toList → other = name) ∧
        Command.read input = Command.ofName name
          (String.ofList (Text.trim (Text.afterFirstWord (Text.trim input.toList)))) ∧
        ∀ other, Command.read input = .unknown other ↔ other = name ∧ name ∉ Command.names) ∧
    ∀ (before : List Char) (signs : Nat) (marked : Bool) (blank : Char) (argument : String),
      Text.Blank before → Text.isBlank blank = true →
        let input (name : String) := Command.line before signs marked name blank argument
        (∀ name ∈ ["query", "q"], shell.Calls (input name)
          ({ shell with session := (shell.session.query argument).1 },
            (shell.session.query argument).2.map fun report =>
              (.goOn, line (Rendering.result shell.measure report.columns report.rows)))) ∧
        (∀ name ∈ ["show", "s"], shell.Calls (input name)
          (shell, .ofExcept ((shell.session.row argument).map fun detail =>
            (.goOn, line (Rendering.detail detail))))) ∧
        shell.Calls (input "cols")
          (shell, .ofExcept ((shell.session.columns argument).map fun report =>
            (.goOn, line (Rendering.columnLists report.entity.columns report.chosen)))) ∧
        shell.Calls (input "sql")
          (shell, .ofExcept ((shell.session.databasePath argument).bind fun path =>
            (shell.startOn path).map fun text => (.goOn, text))) ∧
        shell.Calls (input "entities")
          (shell, .ofExcept (.ok (.goOn, entityLines shell.session.catalog))) ∧
        (∀ name ∈ ["help", "?"], shell.Calls (input name)
          (shell, .ofExcept (.ok (.goOn, line helpText)))) ∧
        ∀ name ∈ ["exit", "quit"], shell.Calls (input name)
          (shell, .ofExcept (.ok (.leave, ""))) := by
  refine ⟨fun input => Command.read_eq_empty_iff, ?_, ?_⟩
  · intro input filled
    have reads := Command.read_of_ne_empty filled
    refine ⟨_, ?_, ?_, reads, ?_⟩
    · rw [String.toList_ofList]
      exact Command.plainName_eq_iff.mp rfl
    · intro other adorns
      rw [Command.plainName_eq_iff.mpr adorns, String.ofList_toList]
    · intro other
      rw [reads]
      exact Command.ofName_eq_unknown_iff
  · intro before signs marked blank argument padding gap input
    have reads : ∀ name ∈ Command.names,
        Command.read (input name) = Command.ofName name (Text.trimString argument) :=
      fun name known => Command.read_line padding signs marked known gap argument
    have calls (name : String) (known : name ∈ Command.names) {command : Command}
        (means : Command.ofName name (Text.trimString argument) = command)
        {called : Shell δ × Noted Failure (Control × String)}
        (performs : shell.perform command = called) : shell.Calls (input name) called :=
      calls_of_read ((reads name known).trans means) performs
    have asked := shell.perform_query_trimString argument
    have shown := shell.perform_row_trimString argument
    refine ⟨?_, ?_, ?_, ?_, ?_, ?_, ?_⟩
    · simp only [List.forall_mem_cons]
      exact ⟨calls "query" (by decide) rfl asked, calls "q" (by decide) rfl asked, by simp⟩
    · simp only [List.forall_mem_cons]
      exact ⟨calls "show" (by decide) rfl shown, calls "s" (by decide) rfl shown, by simp⟩
    · exact calls "cols" (by decide) rfl (shell.perform_columns_trimString argument)
    · exact calls "sql" (by decide) rfl (shell.perform_database_trimString argument)
    · exact calls "entities" (by decide) rfl rfl
    · simp only [List.forall_mem_cons]
      exact ⟨calls "help" (by decide) rfl rfl, calls "?" (by decide) rfl rfl, by simp⟩
    · simp only [List.forall_mem_cons]
      exact ⟨calls "exit" (by decide) rfl rfl, calls "quit" (by decide) rfl rfl, by simp⟩

/-- Signs, a mark, line breaks and blanks do not change what is asked: the program is started
on the path of the inventory, and how it ends there is told.  Behind the one mark that is
dropped a sign belongs to the name. -/
theorem padded_line_asks_for_inventory :
    let programs : Programs := fun _ path =>
      if path = "inv.db" then .ended "signal: 9 (SIGKILL)" else .succeeded
    let shell : Shell Handle :=
      { session :=
          ⟨⟨.database .empty, .database .empty⟩, .empty, .standard, .empty, .file "cards.db",
            .file "inv.db"⟩
        programs }
    Text.Blank [' ', '\t'] ∧ Text.isBlank '\n' = true ∧
      Command.line [' ', '\t'] 2 true "sql" '\n' " inv " = " \t%%m_sql\n inv " ∧
      shell.Calls " \t%%m_sql\n inv "
        (shell, .ofExcept (.ok (.goOn, "sqlite3 exited with signal: 9 (SIGKILL)\n"))) ∧
      Command.read "m_%q cards" ≠ .empty ∧
      Command.read "m_%q cards" = .unknown "%q" := by
  intro programs shell
  have padding : Text.Blank [' ', '\t'] := by
    simp only [Text.Blank, List.forall_mem_cons]
    exact ⟨by decide, by decide, by simp⟩
  have written : Command.line [' ', '\t'] 2 true "sql" '\n' " inv " = " \t%%m_sql\n inv " := by
    decide
  have path : shell.session.databasePath " inv " = .ok "inv.db" := by
    rfl
  have killed : (shell.startOn "inv.db").map (fun text => (Control.goOn, text)) =
      .ok (.goOn, "sqlite3 exited with signal: 9 (SIGKILL)\n") := by
    rfl
  have filled : Command.read "m_%q cards" ≠ .empty := by
    decide
  rcases shell.lines_stand_for_calls with ⟨-, named, called⟩
  rcases called [' ', '\t'] 2 true '\n' " inv " padding (by decide) with ⟨-, -, -, asked, -⟩
  beta_reduce at asked
  rw [written, path, Except.bind, killed] at asked
  rcases named "m_%q cards" filled with ⟨name, adorned, -, -, unknown⟩
  have found := Command.plainName_eq_iff.mpr adorned
  refine ⟨padding, by decide, written, asked, filled, (unknown "%q").mpr ?_⟩
  have same : name = "%q" := by
    rw [← String.toList_inj, ← found]
    decide
  rw [same]
  exact ⟨rfl, by decide⟩

end Shell

end CardShell
