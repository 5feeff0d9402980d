/-!
# Notices

Something worth a warning that does not stop the work.  An outcome is noted
when it carries, in order, the notices given on the way to it, whether or not
it succeeded.
-/

namespace CardShell

/-- What a warning is about. -/
inductive Notice where
  | /-- A clause with a tag that no clause kind has was skipped. -/
    unknownTag (tag clause : String)
  | /-- A table of the primary database is no card table and was skipped. -/
    outsideCatalog (table : String)
  | /-- A table of the secondary database has the name of a card table and was
    skipped. -/
    shadowsCatalog (table : String)
deriving DecidableEq, Repr

/-- An outcome with the notices given on the way to it. -/
structure Noted (ε α : Type) where
  notices : List Notice
  result : Except ε α

namespace Noted

variable {ε ε' α β : Type}

/-- A value without notices. -/
def pure (value : α) : Noted ε α :=
  ⟨[], .ok value⟩

/-- A failure without notices. -/
def fail (failure : ε) : Noted ε α :=
  ⟨[], .error failure⟩

/-- An outcome without notices. -/
def ofExcept (result : Except ε α) : Noted ε α :=
  ⟨[], result⟩

/-- Give notices in front of an outcome. -/
def after (notices : List Notice) (outcome : Noted ε α) : Noted ε α :=
  ⟨notices ++ outcome.notices, outcome.result⟩

/-- Go on with a value; a failure ends the work and keeps its notices. -/
def bind (outcome : Noted ε α) (next : α → Noted ε β) : Noted ε β :=
  match outcome.result with
  | .ok value => (next value).after outcome.notices
  | .error failure => ⟨outcome.notices, .error failure⟩

/-- Change a value. -/
def map (change : α → β) (outcome : Noted ε α) : Noted ε β :=
  ⟨outcome.notices, outcome.result.map change⟩

/-- Change a failure. -/
def mapError (change : ε → ε') (outcome : Noted ε α) : Noted ε' α :=
  ⟨outcome.notices, outcome.result.mapError change⟩

@[simp]
theorem notices_after (notices : List Notice) (outcome : Noted ε α) :
    (outcome.after notices).notices = notices ++ outcome.notices :=
  rfl

@[simp]
theorem result_after (notices : List Notice) (outcome : Noted ε α) :
    (outcome.after notices).result = outcome.result :=
  rfl

@[simp]
theorem after_nil (outcome : Noted ε α) : outcome.after [] = outcome :=
  rfl

@[simp]
theorem pure_bind (value : α) (next : α → Noted ε β) : (pure value).bind next = next value :=
  rfl

@[simp]
theorem fail_bind (failure : ε) (next : α → Noted ε β) :
    (fail failure).bind next = fail failure :=
  rfl

/-- Going on from notices keeps them in front. -/
theorem after_bind (notices : List Notice) (outcome : Noted ε α) (next : α → Noted ε β) :
    (outcome.after notices).bind next = (outcome.bind next).after notices := by
  obtain ⟨given, result⟩ := outcome
  cases result with
  | ok value => simp [bind, after, List.append_assoc]
  | error failure => rfl

@[simp]
theorem notices_map (change : α → β) (outcome : Noted ε α) :
    (outcome.map change).notices = outcome.notices :=
  rfl

@[simp]
theorem result_map (change : α → β) (outcome : Noted ε α) :
    (outcome.map change).result = outcome.result.map change :=
  rfl

@[simp]
theorem notices_mapError (change : ε → ε') (outcome : Noted ε α) :
    (outcome.mapError change).notices = outcome.notices :=
  rfl

@[simp]
theorem result_mapError (change : ε → ε') (outcome : Noted ε α) :
    (outcome.mapError change).result = outcome.result.mapError change :=
  rfl

end Noted

end CardShell
