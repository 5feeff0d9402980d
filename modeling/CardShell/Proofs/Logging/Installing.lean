import CardShell.Logging
import CardShell.Proofs.Files.Making

/-!
# Installing loggers in sequence

Whatever is asked for before, and whichever texts are filters, an attempt to install a logger
has one of three ends.  Without a filter it leaves no trace; the first one with a filter
installs the logger of the process; every later one makes its log file and is refused.  So
the log files that are there in the end are those of all attempts that had a filter.
-/

namespace CardShell

/-! ## Paths of log files -/

namespace Path

/-- A part that names something in its directory. -/
def Plain (part : Part) : Prop :=
  part ≠ [] ∧ part ≠ here ∧ part ≠ up

theorem normal_append_of_plain (parts : List Part) {part : Part} (plain : Plain part) :
    normal (parts ++ [part]) = normal parts ++ [part] := by
  obtain ⟨notEmpty, notHere, notUp⟩ := plain
  simp [normal, enter, notEmpty, notHere, notUp]

theorem ne_nil_of_mem_parts {path : String} {part : Part} (member : part ∈ parts path) :
    part ≠ [] := by
  rw [parts] at member
  split at member
  · contradiction
  · rename_i first rest shape
    rcases List.mem_append.mp member with start | behind
    · split at start
      · obtain rfl := List.mem_singleton.mp start
        decide
      · split at start
        · contradiction
        · rename_i full
          obtain rfl := List.mem_singleton.mp start
          simpa using full
    · simp only [List.mem_filter, Bool.and_eq_true, Bool.not_eq_true',
        List.isEmpty_eq_false_iff] at behind
      exact behind.2.1

/-- A name with an ending is plain. -/
theorem plain_append {name ending : Part} (full : name ≠ []) (notHere : name ≠ here) :
    Plain (name ++ '.' :: ending) := by
  refine ⟨by simp, ?_, ?_⟩
  · intro same
    cases name with
    | nil => exact full rfl
    | cons character name => simp [here] at same
  · intro same
    match name, full, notHere, same with
    | [character], _, notHere, same =>
        simp only [up, List.singleton_append, List.cons.injEq] at same
        exact notHere (by rw [same.1]; rfl)
    | _ :: _ :: name, _, _, same => simp [up] at same

theorem ne_of_fileName? {path : String} {name : Part} (named : fileName? path = some name) :
    name ≠ [] ∧ name ≠ here := by
  obtain ⟨last, ordinary⟩ := Option.filter_eq_some_iff.mp named
  refine ⟨ne_nil_of_mem_parts (List.mem_of_getLast? last), ?_⟩
  rintro rfl
  simp at ordinary

end Path

namespace LogConfig

/-- The directory of a log file: that of the path, or the working directory where the path
has none. -/
def directoryOf (path : String) : List Path.Part :=
  Path.normal ((Path.parent? path).getD [Path.here])

/-- The name of a log file on a day: the last part of the path, or the standard name where
the path ends in none, and then the day. -/
def nameOn (date path : String) : Path.Part :=
  (Path.fileName? path).getD standardName ++ '.' :: date.toList

theorem plain_nameOn (date path : String) : Path.Plain (nameOn date path) := by
  rw [nameOn]
  cases named : Path.fileName? path with
  | some name =>
      obtain ⟨full, notHere⟩ := Path.ne_of_fileName? named
      exact Path.plain_append full notHere
  | none =>
      have full : standardName ≠ [] := by decide
      have notHere : standardName ≠ Path.here := by decide
      exact Path.plain_append full notHere

/-- The name of a log file is kept as it is below the directory. -/
theorem fileOn_eq (date path : String) :
    fileOn date path = directoryOf path ++ [nameOn date path] := by
  rw [fileOn, directoryOf]
  cases Path.parent? path with
  | some directory => exact Path.normal_append_of_plain directory (plain_nameOn date path)
  | none => exact Path.normal_append_of_plain [] (plain_nameOn date path)

/-! ## Filters in effect -/

/-- A text is a log filter. -/
def isFilter (reader : Filter.Reader) (text : String) : Bool :=
  (reader text).toOption.isSome

/-- The text of the filter in effect: that of the environment when it is a filter, and else
the level. -/
def effective (config : LogConfig) (reader : Filter.Reader) (environment : Environment) :
    String :=
  ((environment.lookup filterVariable).filter (isFilter reader)).getD config.level

/-- The filter in effect is read from its text. -/
theorem filter_eq (config : LogConfig) (reader : Filter.Reader) (environment : Environment) :
    config.filter reader environment =
      (reader (config.effective reader environment)).mapError (.invalidLogLevel config.level) := by
  rw [filter, effective]
  cases environment.lookup filterVariable with
  | none => rfl
  | some text =>
      cases read : reader text with
      | ok filter =>
          simp [Option.filter_some, isFilter, read, Except.toOption, Except.mapError]
      | error reason => simp [Option.filter_some, isFilter, read, Except.toOption]

/-- What is no filter is the level. -/
theorem effective_eq_level {config : LogConfig} {reader : Filter.Reader}
    {environment : Environment}
    (refused : isFilter reader (config.effective reader environment) = false) :
    config.effective reader environment = config.level := by
  rw [effective] at refused ⊢
  cases given : (environment.lookup filterVariable).filter (isFilter reader) with
  | none => rfl
  | some text =>
      rw [given, Option.getD_some, (Option.filter_eq_some_iff.mp given).2] at refused
      contradiction

end LogConfig

/-- The message about a level that is none has the level in it. -/
theorem ConfigError.escaped_infix_message (level : String) (reason : FilterError) :
    (Text.escaped level).toList <:+: (invalidLogLevel level reason).message.toList := by
  have worded : (invalidLogLevel level reason).message =
      "invalid log level " ++ Text.escaped level ++ (": " ++ reason.message) := by
    rw [← String.append_assoc]
    rfl
  rw [worded, String.toList_append, String.toList_append]
  exact List.infix_append _ _ _

namespace Logging

/-! ## One attempt -/

/-- An attempt to install a logger on a day. -/
structure Attempt where
  date : String
  config : LogConfig
deriving DecidableEq, Repr

namespace Attempt

/-- The filter for the logger, if there is one. -/
def filter? (reader : Filter.Reader) (environment : Environment) (attempt : Attempt) :
    Option Filter :=
  (reader (attempt.config.effective reader environment)).toOption

/-- Whether there is a filter for the logger. -/
def hasFilter (reader : Filter.Reader) (environment : Environment) (attempt : Attempt) : Bool :=
  (attempt.filter? reader environment).isSome

/-- The log file, if one is wanted. -/
def file? (attempt : Attempt) : Option (List Path.Part) :=
  attempt.config.file? attempt.date

theorem file?_eq_some_iff {attempt : Attempt} {place : List Path.Part} :
    attempt.file? = some place ↔
      ∃ path, (attempt.config.output = .file path ∨ attempt.config.output = .both path) ∧
        place = LogConfig.directoryOf path ++ [LogConfig.nameOn attempt.date path] := by
  rw [file?, LogConfig.file?]
  cases attempt.config.output <;> simp [LogOutput.path?, LogConfig.fileOn_eq, eq_comm]

theorem isSome_file?_iff {attempt : Attempt} :
    attempt.file?.isSome ↔
      ∃ path, attempt.config.output = .file path ∨ attempt.config.output = .both path := by
  rw [file?, LogConfig.file?]
  cases attempt.config.output <;> simp [LogOutput.path?]

end Attempt

variable {reader : Filter.Reader} {environment : Environment} {attempt : Attempt}

/-- Without a filter everything stays as it is. -/
theorem install_of_no_filter (logging : Logging)
    (refused : attempt.hasFilter reader environment = false) :
    ∃ reason, reader attempt.config.level = .error reason ∧
      logging.install reader environment attempt.date attempt.config =
        (logging, .error (.invalidLogLevel attempt.config.level reason)) := by
  have level := LogConfig.effective_eq_level refused
  rw [Attempt.hasFilter, Attempt.filter?, level] at refused
  cases read : reader attempt.config.level with
  | ok filter => simp [read, Except.toOption] at refused
  | error reason =>
      refine ⟨reason, rfl, ?_⟩
      rw [install, LogConfig.filter_eq, level, read]
      rfl

/-- With a filter the log file is made, and the logger is installed unless there is one. -/
theorem install_of_filter (logging : Logging) {filter : Filter}
    (read : attempt.filter? reader environment = some filter) :
    logging.install reader environment attempt.date attempt.config =
      (⟨attempt.file?.toList.foldl FileSystem.touch logging.system,
          logging.logger.or (some filter)⟩,
        if logging.logger.isSome then .error .loggerInstalled
        else .ok (attempt.file?.map LogGuard.mk)) := by
  have known : reader (attempt.config.effective reader environment) = .ok filter := by
    rw [Attempt.filter?] at read
    cases outcome : reader (attempt.config.effective reader environment) with
    | ok found =>
        rw [outcome] at read
        exact congrArg Except.ok (Option.some.inj read)
    | error reason =>
        rw [outcome] at read
        contradiction
  rw [install, LogConfig.filter_eq, known, Attempt.file?]
  cases attempt.config.file? attempt.date <;> cases logging with
  | mk system logger => cases logger <;> rfl

/-! ## Attempts in sequence -/

/-- Make attempts one after another.  The answers stand in the order of the attempts. -/
def installAll (logging : Logging) (reader : Filter.Reader) (environment : Environment) :
    List Attempt → Logging × List (Except ConfigError (Option LogGuard))
  | [] => (logging, [])
  | attempt :: attempts =>
      let (next, answer) := logging.install reader environment attempt.date attempt.config
      let (last, answers) := next.installAll reader environment attempts
      (last, answer :: answers)

theorem installAll_append (logging : Logging) (reader : Filter.Reader)
    (environment : Environment) (before after : List Attempt) :
    logging.installAll reader environment (before ++ after) =
      (((logging.installAll reader environment before).1.installAll reader environment after).1,
        (logging.installAll reader environment before).2 ++
          ((logging.installAll reader environment before).1.installAll reader environment
            after).2) := by
  induction before generalizing logging with
  | nil => rfl
  | cons attempt before later => simp only [List.cons_append, installAll, later]

theorem length_installAll (logging : Logging) (reader : Filter.Reader)
    (environment : Environment) (attempts : List Attempt) :
    (logging.installAll reader environment attempts).2.length = attempts.length := by
  induction attempts generalizing logging with
  | nil => rfl
  | cons attempt attempts later => simp only [installAll, List.length_cons, later]

/-- An attempt is answered by what those before it left. -/
theorem getElem?_installAll (logging : Logging) (reader : Filter.Reader)
    (environment : Environment) (before : List Attempt) (attempt : Attempt) (after : List Attempt) :
    (logging.installAll reader environment (before ++ attempt :: after)).2[before.length]? =
      some ((logging.installAll reader environment before).1.install reader environment attempt.date
        attempt.config).2 := by
  rw [installAll_append, ← length_installAll logging reader environment before,
    List.getElem?_append_right (le_refl _), Nat.sub_self]
  rfl

theorem installAll_snoc_fst (logging : Logging) (reader : Filter.Reader)
    (environment : Environment) (before : List Attempt) (attempt : Attempt) :
    (logging.installAll reader environment (before ++ [attempt])).1 =
      ((logging.installAll reader environment before).1.install reader environment attempt.date
        attempt.config).1 := by
  rw [installAll_append]
  rfl

/-- The log files of attempts, in the order in which they are made. -/
def places (reader : Filter.Reader) (environment : Environment) (attempts : List Attempt) :
    List (List Path.Part) :=
  (attempts.filter (·.hasFilter reader environment)).filterMap Attempt.file?

theorem places_cons (reader : Filter.Reader) (environment : Environment) (attempt : Attempt)
    (attempts : List Attempt) :
    places reader environment (attempt :: attempts) =
      (if attempt.hasFilter reader environment then attempt.file?.toList else []) ++
        places reader environment attempts := by
  rw [places, List.filter_cons]
  split
  · cases file : attempt.file? <;> simp [file, places]
  · rfl

theorem mem_places_iff {attempts : List Attempt} {place : List Path.Part} :
    place ∈ places reader environment attempts ↔
      ∃ attempt ∈ attempts, attempt.hasFilter reader environment = true ∧
        attempt.file? = some place := by
  simp only [places, List.mem_filterMap, List.mem_filter, and_assoc]

/-- The log files are made one after another. -/
theorem system_installAll (logging : Logging) (reader : Filter.Reader)
    (environment : Environment) (attempts : List Attempt) :
    (logging.installAll reader environment attempts).1.system =
      (places reader environment attempts).foldl FileSystem.touch logging.system := by
  induction attempts generalizing logging with
  | nil => rfl
  | cons attempt attempts later =>
      rw [installAll, later, places_cons, List.foldl_append]
      cases read : attempt.filter? reader environment with
      | none =>
          have refused : attempt.hasFilter reader environment = false := congrArg Option.isSome read
          obtain ⟨reason, -, left⟩ := install_of_no_filter logging refused
          rw [left, refused]
          rfl
      | some filter =>
          have accepted : attempt.hasFilter reader environment = true := congrArg Option.isSome read
          rw [install_of_filter logging read, if_pos accepted]

/-- The logger is that of the first attempt with a filter, unless there was one before. -/
theorem logger_installAll (logging : Logging) (reader : Filter.Reader)
    (environment : Environment) (attempts : List Attempt) :
    (logging.installAll reader environment attempts).1.logger =
      logging.logger.or (attempts.findSome? (·.filter? reader environment)) := by
  induction attempts generalizing logging with
  | nil => exact Option.or_none.symm
  | cons attempt attempts later =>
      rw [installAll, later, List.findSome?_cons]
      cases read : attempt.filter? reader environment with
      | none =>
          have refused : attempt.hasFilter reader environment = false := congrArg Option.isSome read
          obtain ⟨reason, -, left⟩ := install_of_no_filter logging refused
          rw [left]
      | some filter =>
          rw [install_of_filter logging read, Option.or_assoc, Option.some_or]

/-- A process that starts without a logger has one as soon as an attempt had a filter. -/
theorem isSome_logger_installAll_iff {system : FileSystem} {attempts : List Attempt} :
    (installAll { system } reader environment attempts).1.logger.isSome ↔
      ∃ attempt ∈ attempts, attempt.hasFilter reader environment = true := by
  rw [logger_installAll, Option.none_or, List.findSome?_isSome_iff]
  rfl

/-- Once the log files are made, the same attempt changes nothing. -/
theorem install_again {system : FileSystem} {attempts : List Attempt}
    (room : system.HasRoom (places reader environment attempts)) (member : attempt ∈ attempts) :
    ((installAll { system } reader environment attempts).1.install reader environment attempt.date
      attempt.config).1 = (installAll { system } reader environment attempts).1 := by
  cases read : attempt.filter? reader environment with
  | none =>
      have refused : attempt.hasFilter reader environment = false := congrArg Option.isSome read
      obtain ⟨reason, -, left⟩ := install_of_no_filter _ refused
      rw [left]
  | some filter =>
      have accepted : attempt.hasFilter reader environment = true := congrArg Option.isSome read
      have installed : (installAll { system } reader environment attempts).1.logger.isSome :=
        isSome_logger_installAll_iff.mpr ⟨attempt, member, accepted⟩
      have made : attempt.file?.toList.foldl FileSystem.touch
          (installAll { system } reader environment attempts).1.system =
            (installAll { system } reader environment attempts).1.system := by
        cases wanted : attempt.file? with
        | none => rfl
        | some place =>
            have named : place ∈ places reader environment attempts :=
              mem_places_iff.mpr ⟨attempt, member, accepted, wanted⟩
            rw [system_installAll]
            exact FileSystem.touch_foldl_touch room named
      rw [install_of_filter _ read, made]
      generalize installAll { system } reader environment attempts = run at installed ⊢
      obtain ⟨⟨files, logger⟩, answers⟩ := run
      obtain ⟨first, rfl⟩ := Option.isSome_iff_exists.mp installed
      rfl

/-- Attempts to install a logger are answered one by one.  Without a filter in effect an
attempt is refused with its level in the message, and neither the files nor the logger of
the process change.  The first attempt with a filter succeeds and gives a guard exactly if
it logs to a file; every later one with a filter finds the logger of the first.  The log
files that are there in the end are those of all attempts with a filter that log to a file,
the refused ones among them: each stands in the directory of its path under the last part of
the path, or under the standard name, with the day behind it.  What was there before stays,
and making an attempt again changes nothing. -/
theorem first_filter_installs_logger (system : FileSystem) (reader : Filter.Reader)
    (environment : Environment) (attempts : List Attempt)
    (room : system.HasRoom (places reader environment attempts)) :
    (installAll { system } reader environment attempts).2.length = attempts.length ∧
    (∀ before attempt after, attempts = before ++ attempt :: after → ∃ answer,
      (installAll { system } reader environment attempts).2[before.length]? = some answer ∧
      (attempt.hasFilter reader environment = false →
        (installAll { system } reader environment (before ++ [attempt])).1 =
          (installAll { system } reader environment before).1 ∧
        ∃ error reason, answer = .error error ∧
          error = .invalidLogLevel attempt.config.level reason ∧
          reader attempt.config.level = .error reason ∧
          (Text.escaped attempt.config.level).toList <:+: error.message.toList) ∧
      (attempt.hasFilter reader environment = true →
        (∀ earlier ∈ before, earlier.hasFilter reader environment = false) →
        ∃ guard, answer = .ok guard ∧ (guard.isSome ↔
          ∃ path, attempt.config.output = .file path ∨ attempt.config.output = .both path)) ∧
      (attempt.hasFilter reader environment = true →
        (∃ earlier ∈ before, earlier.hasFilter reader environment = true) →
        answer = .error .loggerInstalled)) ∧
    (installAll { system } reader environment attempts).1.logger =
      attempts.findSome? (·.filter? reader environment) ∧
    (∀ place file,
      (installAll { system } reader environment attempts).1.system.regular? place = some file ↔
        system.regular? place = some file ∨
        system.regular? place = none ∧ file = .text "" ∧
          ∃ attempt ∈ attempts, attempt.hasFilter reader environment = true ∧
            ∃ path,
              (attempt.config.output = .file path ∨ attempt.config.output = .both path) ∧
              place = LogConfig.directoryOf path ++ [LogConfig.nameOn attempt.date path]) ∧
    ∀ attempt ∈ attempts,
      (installAll { system } reader environment (attempts ++ [attempt])).1 =
        (installAll { system } reader environment attempts).1 := by
  refine ⟨length_installAll _ _ _ _, ?_, ?_, ?_, ?_⟩
  · -- what those before it left decides the answer, and of this only whether there is a logger
    rintro before attempt after rfl
    refine ⟨_, getElem?_installAll _ _ _ _ _ _, ?_, ?_, ?_⟩
    · intro refused
      obtain ⟨reason, level, left⟩ := install_of_no_filter
        (installAll { system } reader environment before).1 refused
      rw [installAll_snoc_fst, left]
      exact ⟨rfl, _, reason, rfl, rfl, level, ConfigError.escaped_infix_message _ _⟩
    · intro accepted first
      obtain ⟨filter, read⟩ := Option.isSome_iff_exists.mp accepted
      have free : (installAll { system } reader environment before).1.logger.isSome = false := by
        rw [Bool.eq_false_iff, ne_eq, isSome_logger_installAll_iff]
        rintro ⟨earlier, member, found⟩
        rw [first earlier member] at found
        contradiction
      rw [install_of_filter _ read, free]
      refine ⟨_, rfl, ?_⟩
      rw [Option.isSome_map, Attempt.isSome_file?_iff]
    · intro accepted earlier
      obtain ⟨filter, read⟩ := Option.isSome_iff_exists.mp accepted
      rw [install_of_filter _ read, isSome_logger_installAll_iff.mpr earlier]
      rfl
  · rw [logger_installAll, Option.none_or]
  · intro place file
    rw [system_installAll, FileSystem.regular?_foldl_touch room, Option.or_eq_some_iff]
    apply or_congr_right
    apply and_congr_right
    intro absent
    rw [Option.ite_none_right_eq_some, mem_places_iff, Option.some.injEq,
      eq_comm (a := File.text ""), and_comm]
    simp only [Attempt.file?_eq_some_iff]
  · intro attempt member
    rw [installAll_snoc_fst]
    exact install_again room member

/-- The filter of the environment is none, so the levels count.  The first level is none
either; the second attempt logs to a path that ends in no name, and the third one leaves
its file although it comes too late. -/
theorem late_attempt_leaves_its_file :
    let system : FileSystem := ⟨[(["logs".toList, "old".toList], .text "kept")]⟩
    let reader : Filter.Reader := Filter.read
    let environment : Environment := [("RUST_LOG", "mtgdb=loud")]
    let misspelt : Attempt := ⟨"2024-05-01", { level := "loud=loud", output := .both "a.log" }⟩
    let first : Attempt := ⟨"2024-05-01", { level := "info", output := .file "logs/.." }⟩
    let late : Attempt := ⟨"2024-05-02", { output := .both "run.log" }⟩
    let attempts : List Attempt := [misspelt, first, late]
    system.HasRoom (places reader environment attempts) ∧
      (installAll { system } reader environment [misspelt]).1 = { system } ∧
      (∃ guard, (installAll { system } reader environment attempts).2[1]? = some (.ok guard) ∧
        guard.isSome) ∧
      (installAll { system } reader environment attempts).2[2]? = some (.error .loggerInstalled) ∧
      (installAll { system } reader environment attempts).1.system.regular?
        ["logs".toList, "mtgdb.log.2024-05-01".toList] = some (.text "") ∧
      (installAll { system } reader environment attempts).1.system.regular?
        ["run.log.2024-05-02".toList] = some (.text "") ∧
      (installAll { system } reader environment (attempts ++ [late])).1 =
        (installAll { system } reader environment attempts).1 := by
  intro system reader environment misspelt first late attempts
  have files : places reader environment attempts =
      [["logs".toList, "mtgdb.log.2024-05-01".toList], ["run.log.2024-05-02".toList]] := by
    decide
  have room : system.HasRoom (places reader environment attempts) := by
    rw [files]
    exact ⟨by decide, by decide +kernel, by decide⟩
  have refused : misspelt.hasFilter reader environment = false := by decide
  have accepted : first.hasFilter reader environment = true := by decide
  have acceptedLate : late.hasFilter reader environment = true := by decide
  obtain ⟨-, answers, -, found, again⟩ :=
    first_filter_installs_logger system reader environment attempts room
  obtain ⟨_, -, unchanged, -, -⟩ := answers [] misspelt [first, late] rfl
  obtain ⟨answer, given, -, granted, -⟩ := answers [misspelt] first [late] rfl
  obtain ⟨guard, rfl, held⟩ := granted accepted (by
    intro earlier member
    rw [List.mem_singleton.mp member, refused])
  obtain ⟨answerLate, givenLate, -, -, denied⟩ := answers [misspelt, first] late [] rfl
  rw [denied acceptedLate ⟨first, by simp, accepted⟩] at givenLate
  refine ⟨room, (unchanged refused).1, ⟨guard, given, held.mpr ⟨"logs/..", .inl rfl⟩⟩, givenLate,
    ?_, ?_, again late (by simp [attempts])⟩
  · exact (found _ _).mpr (.inr ⟨rfl, rfl, first, by simp [attempts], accepted,
      "logs/..", .inl rfl, by decide⟩)
  · exact (found _ _).mpr (.inr ⟨rfl, rfl, late, by simp [attempts], acceptedLate,
      "run.log", .inr rfl, by decide⟩)

end Logging
end CardShell
