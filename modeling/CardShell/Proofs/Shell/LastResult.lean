import CardShell.Proofs.Shell.Run

/-!
# What a shell remembers

Between two lines a shell remembers the rows of the last query that succeeded and
nothing else.  A line that fails, or that is no query, leaves it as it was.  The
storage may behave differently at each line, so a line is taken together with
the databases as they are when it is given.
-/

namespace CardShell

/-- A line when it is given, with the databases as they are then and the
output. -/
structure Moment (δ : Type) where
  databases : Databases δ
  line : String
  output : Sink

namespace Shell

variable {δ : Type} [Engine δ]

/-- The shell with its databases as they are at some time. -/
def facing (shell : Shell δ) (databases : Databases δ) : Shell δ :=
  { shell with session := { shell.session with databases } }

/-- The shell with a last result. -/
def holding (shell : Shell δ) (cursor : Cursor) : Shell δ :=
  { shell with session := { shell.session with cursor } }

/-- Answer a line with the databases as they are then. -/
def answer (shell : Shell δ) (moment : Moment δ) : Run δ :=
  let run := (shell.facing moment.databases).runLine moment.output moment.line
  ⟨run.shell.facing shell.session.databases, run.outcome⟩

/-- The shell after a history of lines. -/
def after (shell : Shell δ) (history : List (Moment δ)) : Shell δ :=
  history.foldl (fun shell moment => (shell.answer moment).shell) shell

/-- The report of a line, if it is a query that succeeds. -/
def report? (shell : Shell δ) (moment : Moment δ) : Option Report :=
  match Command.read moment.line with
  | .query instruction =>
      ((shell.facing moment.databases).session.query instruction).2.result.toOption
  | _ => none

/-- The last line of a history that is a query and succeeds where it stands. -/
def lastSuccess? (shell : Shell δ) : List (Moment δ) → Option (Moment δ × Report)
  | [] => none
  | moment :: history =>
      ((shell.answer moment).shell.lastSuccess? history).or
        ((shell.report? moment).map fun report => (moment, report))

/-! ## One line -/

/-- A query that succeeds replaces the last result, and any other line leaves the
shell as it is. -/
theorem shell_answer (shell : Shell δ) (moment : Moment δ) :
    (shell.answer moment).shell =
      match shell.report? moment with
      | some report => shell.holding (.record report.entity report.rows)
      | none => shell := by
  change ((shell.facing moment.databases).perform (Command.read moment.line)).1.facing
    shell.session.databases = _
  rw [report?]
  cases command : Command.read moment.line with
  | query instruction =>
      rw [perform_query_fst]
      dsimp only
      cases ((shell.facing moment.databases).session.query instruction).2.result <;> rfl
  | _ => rfl

/-- Whether a query succeeds, and with what, does not depend on the last
result. -/
theorem report?_holding (shell : Shell δ) (cursor : Cursor) (moment : Moment δ) :
    (shell.holding cursor).report? moment = shell.report? moment :=
  rfl

/-! ## A history -/

/-- A line changes no more than the last result, so it does not change which
later lines succeed. -/
theorem report?_answer (shell : Shell δ) (moment other : Moment δ) :
    (shell.answer moment).shell.report? other = shell.report? other := by
  rw [shell_answer]
  cases shell.report? moment with
  | some report => exact report?_holding shell _ other
  | none => rfl

theorem report?_after (shell : Shell δ) (history : List (Moment δ)) (moment : Moment δ) :
    (shell.after history).report? moment = shell.report? moment := by
  induction history generalizing shell with
  | nil => rfl
  | cons first history later =>
      change ((shell.answer first).shell.after history).report? moment = _
      rw [later, report?_answer]

/-- Nothing succeeds in a history exactly when none of its lines does. -/
theorem lastSuccess?_eq_none_iff {shell : Shell δ} {history : List (Moment δ)} :
    shell.lastSuccess? history = none ↔ ∀ moment ∈ history, shell.report? moment = none := by
  induction history generalizing shell with
  | nil => simp [lastSuccess?]
  | cons first history later =>
      simp [lastSuccess?, later, report?_answer, and_comm]

theorem lastSuccess?_append (shell : Shell δ) (first second : List (Moment δ)) :
    shell.lastSuccess? (first ++ second) =
      ((shell.after first).lastSuccess? second).or (shell.lastSuccess? first) := by
  induction first generalizing shell with
  | nil => simp [lastSuccess?, after]
  | cons moment first later =>
      rw [List.cons_append, lastSuccess?, later, lastSuccess?, Option.or_assoc]
      rfl

/-- The last success of a history is answered with the report that it would have
at the start. -/
theorem report?_of_lastSuccess? {shell : Shell δ} {history : List (Moment δ)}
    {moment : Moment δ} {report : Report}
    (last : shell.lastSuccess? history = some (moment, report)) :
    shell.report? moment = some report := by
  induction history generalizing shell with
  | nil => contradiction
  | cons first history later =>
      rw [lastSuccess?, Option.or_eq_some_iff] at last
      rcases last with behind | ⟨-, here⟩
      · rw [← later behind, report?_answer]
      · obtain ⟨found, reported, same⟩ := Option.map_eq_some_iff.mp here
        obtain ⟨rfl, rfl⟩ := Prod.mk.inj same
        exact reported

/-- After a history a shell holds the result of the last query that succeeded. -/
theorem after_eq (shell : Shell δ) (history : List (Moment δ)) :
    shell.after history =
      match shell.lastSuccess? history with
      | some (_, report) => shell.holding (.record report.entity report.rows)
      | none => shell := by
  induction history generalizing shell with
  | nil => rfl
  | cons first history later =>
      change (shell.answer first).shell.after history = _
      rw [later, lastSuccess?, shell_answer]
      cases shell.report? first with
      | none => cases shell.lastSuccess? history <;> rfl
      | some report =>
          cases (shell.holding (.record report.entity report.rows)).lastSuccess? history <;> rfl

/-- A history with a success comes to what its last success alone comes to,
whatever was held before. -/
theorem after_eq_of_lastSuccess? {shell : Shell δ} {history : List (Moment δ)}
    {success : Moment δ} {report : Report}
    (last : shell.lastSuccess? history = some (success, report)) (cursor : Cursor) :
    shell.after history = (shell.holding cursor).after [success] := by
  have succeeds := report?_of_lastSuccess? last
  rw [after_eq, last]
  change _ = ((shell.holding cursor).answer success).shell
  rw [shell_answer, report?_holding, succeeds]
  rfl

/-! ## Leaving lines out -/

/-- A history is thinned when lines are left out of it, but not the last query
that succeeds. -/
inductive Thinned (shell : Shell δ) : List (Moment δ) → List (Moment δ) → Prop
  | idle {history kept : List (Moment δ)} (quiet : shell.lastSuccess? history = none)
      (part : kept.Sublist history) : Thinned shell history kept
  | behind {earlier later keptEarlier keptLater : List (Moment δ)} {success : Moment δ}
      {report : Report} (succeeds : (shell.after earlier).report? success = some report)
      (last : (shell.after (earlier ++ [success])).lastSuccess? later = none)
      (partEarlier : keptEarlier.Sublist earlier) (partLater : keptLater.Sublist later) :
      Thinned shell (earlier ++ success :: later) (keptEarlier ++ success :: keptLater)

/-- In a history that ends without further successes, the last success is the
one in front of them. -/
theorem lastSuccess?_append_cons {shell : Shell δ} {success : Moment δ} {report : Report}
    (succeeds : shell.report? success = some report) (earlier : List (Moment δ))
    {later : List (Moment δ)} (quiet : ∀ moment ∈ later, shell.report? moment = none) :
    shell.lastSuccess? (earlier ++ success :: later) = some (success, report) := by
  have nothing : ((shell.after earlier).answer success).shell.lastSuccess? later = none := by
    rw [lastSuccess?_eq_none_iff]
    intro moment member
    rw [report?_answer, report?_after]
    exact quiet moment member
  rw [lastSuccess?_append, lastSuccess?, nothing, report?_after, succeeds]
  rfl

/-- A thinned history has the same last success. -/
theorem Thinned.lastSuccess?_eq {shell : Shell δ} {history kept : List (Moment δ)}
    (thinned : Thinned shell history kept) :
    shell.lastSuccess? kept = shell.lastSuccess? history := by
  cases thinned with
  | idle quiet part =>
      rw [quiet, lastSuccess?_eq_none_iff]
      intro moment member
      exact lastSuccess?_eq_none_iff.mp quiet moment (part.subset member)
  | @behind earlier later keptEarlier keptLater success report succeeds last partEarlier
      partLater =>
      rw [report?_after] at succeeds
      have quiet : ∀ moment ∈ later, shell.report? moment = none := by
        intro moment member
        rw [← report?_after shell (earlier ++ [success])]
        exact lastSuccess?_eq_none_iff.mp last moment member
      rw [lastSuccess?_append_cons succeeds earlier quiet,
        lastSuccess?_append_cons succeeds keptEarlier fun moment member =>
          quiet moment (partLater.subset member)]

/-- A thinned history comes to the same shell. -/
theorem Thinned.after_eq {shell : Shell δ} {history kept : List (Moment δ)}
    (thinned : Thinned shell history kept) : shell.after kept = shell.after history := by
  rw [Shell.after_eq, thinned.lastSuccess?_eq, ← Shell.after_eq]

/-- Nothing in a thinned history is new. -/
theorem Thinned.sublist {shell : Shell δ} {history kept : List (Moment δ)}
    (thinned : Thinned shell history kept) : kept.Sublist history := by
  cases thinned with
  | idle quiet part => exact part
  | behind succeeds last partEarlier partLater =>
      exact partEarlier.append (partLater.cons_cons _)

/-! ## Lines in a batch -/

/-- Lines that are given while the databases stay as they are. -/
def typed (shell : Shell δ) (inputs : List String) : List (Moment δ) :=
  inputs.map fun input => ⟨shell.session.databases, input, .unlimited⟩

/-- No command changes the databases. -/
theorem facing_perform (shell : Shell δ) (command : Command) :
    (shell.perform command).1.facing shell.session.databases = (shell.perform command).1 := by
  cases command with
  | query instruction =>
      rw [perform_query_fst]
      cases (shell.session.query instruction).2.result <;> rfl
  | _ => rfl

theorem databases_perform (shell : Shell δ) (command : Command) :
    (shell.perform command).1.session.databases = shell.session.databases := by
  rw [← facing_perform]
  rfl

/-- Lines of a batch come to what the same lines come to as a history. -/
theorem afterLines_eq (shell : Shell δ) (inputs : List String) :
    shell.afterLines inputs = shell.after (shell.typed inputs) := by
  induction inputs generalizing shell with
  | nil => rfl
  | cons input inputs later =>
      have answered : (shell.answer ⟨shell.session.databases, input, .unlimited⟩).shell =
          (shell.perform (Command.read input)).1 :=
        shell.facing_perform (Command.read input)
      change (shell.perform (Command.read input)).1.afterLines inputs =
        (shell.answer ⟨shell.session.databases, input, .unlimited⟩).shell.after (shell.typed inputs)
      rw [later, answered, typed, databases_perform]
      rfl

/-- When lines that leave are kept, a run over fewer lines leaves when the run
over all of them does, and a line behind both adds the same to both. -/
theorem exists_adds_of_thinned {shell : Shell δ} {inputs kept : List String}
    (thinned : shell.Thinned (shell.typed inputs) (shell.typed kept))
    (leaving : ∀ input ∈ inputs, Command.read input = .exit → input ∈ kept) (echo : Bool)
    (written input : String) :
    ∃ addition,
      (shell.runLines echo ⟨written, none⟩ inputs).Adds addition
        (shell.runLines echo ⟨written, none⟩ (inputs ++ [input])) ∧
      (shell.runLines echo ⟨written, none⟩ kept).Adds addition
        (shell.runLines echo ⟨written, none⟩ (kept ++ [input])) := by
  by_cases leaves : ∃ leaving ∈ inputs, Command.read leaving = .exit
  · obtain ⟨last, member, exits⟩ := leaves
    exact ⟨none, adds_runLines_of_exit member exits echo shell written input,
      adds_runLines_of_exit (leaving last member exits) exits echo shell written input⟩
  · have stays : ∀ other ∈ inputs, Command.read other ≠ .exit := fun other member exits =>
      leaves ⟨other, member, exits⟩
    have keptStays : ∀ other ∈ kept, Command.read other ≠ .exit := by
      intro other member
      have given : (⟨shell.session.databases, other, .unlimited⟩ : Moment δ) ∈ shell.typed inputs :=
        thinned.sublist.subset (List.mem_map_of_mem member)
      obtain ⟨found, present, same⟩ := List.mem_map.mp given
      have line : found = other := congrArg Moment.line same
      exact line ▸ stays found present
    have same : shell.afterLines kept = shell.afterLines inputs := by
      rw [afterLines_eq, thinned.after_eq, ← afterLines_eq]
    refine ⟨some (addition echo (shell.afterLines inputs) input),
      adds_runLines stays echo shell written input, ?_⟩
    rw [← same]
    exact adds_runLines keptStays echo shell written input

/-- A shell remembers the last query that succeeded and nothing else.  After any
history it is the shell it was, but for the rows of that query; a line that fails
or is no query leaves it as it was; the answer to a line is the one it would have
right behind that query, whatever was held before it; and leaving other lines out
changes neither that answer nor, in a batch, what the line adds. -/
theorem only_last_success_lasts (shell : Shell δ) :
    (∀ history, shell.after history =
      match shell.lastSuccess? history with
      | some (_, report) => shell.holding (.record report.entity report.rows)
      | none => shell) ∧
    (∀ sink input,
      ((∀ instruction, Command.read input ≠ .query instruction) ∨
        ∃ failure, (shell.perform (Command.read input)).2.result = .error failure) →
      (shell.runLine sink input).shell = shell) ∧
    (∀ history moment,
      (∀ success report cursor, shell.lastSuccess? history = some (success, report) →
        (shell.after history).answer moment =
          ((shell.holding cursor).after [success]).answer moment) ∧
      (shell.lastSuccess? history = none →
        (shell.after history).answer moment = shell.answer moment)) ∧
    (∀ history kept moment, shell.Thinned history kept →
      (shell.after kept).answer moment = (shell.after history).answer moment) ∧
    (∀ echo sink inputs, ∃ answered, answered <+: inputs ∧
      (shell.runLines echo sink inputs).shell = shell.after (shell.typed answered) ∧
      (sink.room = none → answered = reached inputs)) ∧
    (∀ echo written inputs kept input,
      shell.Thinned (shell.typed inputs) (shell.typed kept) →
      (∀ leaving ∈ inputs, Command.read leaving = .exit → leaving ∈ kept) →
      ∃ addition,
        (shell.runLines echo ⟨written, none⟩ inputs).Adds addition
          (shell.runLines echo ⟨written, none⟩ (inputs ++ [input])) ∧
        (shell.runLines echo ⟨written, none⟩ kept).Adds addition
          (shell.runLines echo ⟨written, none⟩ (kept ++ [input]))) := by
  refine ⟨shell.after_eq, ?_, ?_, ?_, ?_, ?_⟩
  · rintro sink input (other | ⟨failure, failed⟩)
    · exact shell.perform_fst_of_ne_query other
    · exact shell.perform_fst_of_error failed
  · intro history moment
    constructor
    · intro success report cursor last
      rw [after_eq_of_lastSuccess? last cursor]
    · intro none
      rw [after_eq, none]
  · intro history kept moment thinned
    rw [thinned.after_eq]
  · intro echo sink inputs
    obtain ⟨written, room⟩ := sink
    cases room with
    | none =>
        refine ⟨reached inputs, reached_prefix inputs, ?_, fun _ => rfl⟩
        rw [shell_runLines_unlimited, afterLines_eq]
    | some room =>
        obtain ⟨answered, part, result⟩ :=
          exists_shell_runLines echo shell ⟨written, some room⟩ inputs
        refine ⟨answered, part, ?_, fun unlimited => by contradiction⟩
        rw [result, afterLines_eq]
  · intro echo written inputs kept input thinned leaving
    exact exists_adds_of_thinned thinned leaving echo written input

/-- Between a query and a row of its result, a number out of range, a condition
that is cut off and an unknown entity change nothing. -/
theorem row_after_failed_lines :
    let shell : Shell Handle :=
      { session :=
          ⟨⟨.database .empty,
              .database (.ofTables [⟨"things", [⟨"name", .text⟩], [[.text "ring"]]⟩] [])⟩,
            Catalog.empty.insert ⟨"things", ["name"]⟩, .standard, .empty, .memory, .memory⟩ }
    shell.Thinned (shell.typed ["query things", "show 9", "query things w:(", "query lost"])
        (shell.typed ["query things"]) ∧
      (∀ leaving ∈ ["query things", "show 9", "query things w:(", "query lost"],
        Command.read leaving = .exit → leaving ∈ ["query things"]) ∧
      ∃ addition,
        (shell.runLines true .unlimited
            ["query things", "show 9", "query things w:(", "query lost"]).Adds addition
          (shell.runLines true .unlimited
            ["query things", "show 9", "query things w:(", "query lost", "show 0"]) ∧
        (shell.runLines true .unlimited ["query things"]).Adds addition
          (shell.runLines true .unlimited ["query things", "show 0"]) := by
  intro shell
  have succeeds : shell.report? ⟨shell.session.databases, "query things", .unlimited⟩ =
      some ⟨⟨"things", ["name"]⟩, .secondary, ["name"], [⟨["name"], [.text "ring"]⟩]⟩ := by
    decide +kernel
  have quiet : (shell.after (shell.typed ["query things"])).lastSuccess?
      (shell.typed ["show 9", "query things w:(", "query lost"]) = none := by
    decide +kernel
  have thinned : shell.Thinned
      (shell.typed ["query things", "show 9", "query things w:(", "query lost"])
      (shell.typed ["query things"]) :=
    @Thinned.behind Handle _ shell [] _ [] [] _ _ succeeds quiet .slnil (List.nil_sublist _)
  have leaving : ∀ leaving ∈ ["query things", "show 9", "query things w:(", "query lost"],
      Command.read leaving = .exit → leaving ∈ ["query things"] := by
    decide
  exact ⟨thinned, leaving,
    (only_last_success_lasts shell).2.2.2.2.2 true "" _ _ "show 0" thinned leaving⟩

end Shell

end CardShell
