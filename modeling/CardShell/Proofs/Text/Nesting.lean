import CardShell.Text.Quoted

/-!
# Parentheses and quotes

A text is scanned with the number of parentheses that are open and the quotes that are
open, and parentheses count outside of quotes only.  A balanced text leaves everything
closed and never closes what it has not opened, so within a pair of parentheses it stays
inside of them, and the parenthesis that closes them is the first one that it cannot have
closed itself.
-/

namespace CardShell.Text

/-! ## Places -/

/-- The quotes that are open. -/
inductive Quotes where
  | outside
  | single
  | double
deriving DecidableEq, Repr

/-- A place in a text: how many parentheses are open there, and which quotes. -/
structure Place where
  depth : Nat
  quotes : Quotes
deriving DecidableEq, Repr

namespace Place

/-- Nothing is open. -/
def start : Place :=
  ⟨0, .outside⟩

/-- Read one character.  A parenthesis that was not opened cannot be closed. -/
def step? (place : Place) (character : Char) : Option Place :=
  match place.quotes with
  | .single => some ⟨place.depth, if character = '\'' then .outside else .single⟩
  | .double => some ⟨place.depth, if character = '"' then .outside else .double⟩
  | .outside =>
      match character with
      | '\'' => some ⟨place.depth, .single⟩
      | '"' => some ⟨place.depth, .double⟩
      | '(' => some ⟨place.depth + 1, .outside⟩
      | ')' => if place.depth = 0 then none else some ⟨place.depth - 1, .outside⟩
      | _ => some place

/-- A character opens a parenthesis, closes one, or does the same at every depth. -/
theorem cases_of_step? {place next : Place} {character : Char}
    (read : place.step? character = some next) :
    (character = '(' ∧ place.quotes = .outside ∧ next = ⟨place.depth + 1, .outside⟩) ∨
      (character = ')' ∧ next.quotes = .outside ∧ place = ⟨next.depth + 1, .outside⟩) ∨
      next.depth = place.depth ∧
        ∀ depth, step? ⟨depth, place.quotes⟩ character = some ⟨depth, next.quotes⟩ := by
  rcases place with ⟨depth, quotes⟩
  cases quotes with
  | single =>
      cases read
      exact .inr (.inr ⟨rfl, fun _ => rfl⟩)
  | double =>
      cases read
      exact .inr (.inr ⟨rfl, fun _ => rfl⟩)
  | outside =>
      simp only [step?] at read
      split at read
      · cases read
        exact .inr (.inr ⟨rfl, fun _ => rfl⟩)
      · cases read
        exact .inr (.inr ⟨rfl, fun _ => rfl⟩)
      · cases read
        exact .inl ⟨rfl, rfl, rfl⟩
      · split at read
        · cases read
        · next opened =>
            cases read
            refine .inr (.inl ⟨rfl, rfl, ?_⟩)
            rw [Nat.sub_add_cancel (Nat.one_le_iff_ne_zero.mpr opened)]
      · cases read
        refine .inr (.inr ⟨rfl, fun _ => ?_⟩)
        simp_all [step?]

/-- The same place within further parentheses. -/
def within (place : Place) (outer : Nat) : Place :=
  ⟨place.depth + outer, place.quotes⟩

/-- What can be read can be read within parentheses. -/
theorem step?_within {place next : Place} {character : Char}
    (read : place.step? character = some next) (outer : Nat) :
    (place.within outer).step? character = some (next.within outer) := by
  rcases cases_of_step? read with ⟨rfl, outside, rfl⟩ | ⟨rfl, outside, rfl⟩ | ⟨level, always⟩
  · simp [within, step?, outside, Nat.add_right_comm]
  · simp [within, step?, outside, Nat.add_right_comm]
  · rw [within, within, level]
    exact always _

/-- Scan a text. -/
def scan? (place : Place) (text : List Char) : Option Place :=
  text.foldlM step? place

theorem scan?_cons (place : Place) (character : Char) (text : List Char) :
    place.scan? (character :: text) = (place.step? character).bind (scan? · text) :=
  List.foldlM_cons

theorem scan?_append (place : Place) (text further : List Char) :
    place.scan? (text ++ further) = (place.scan? text).bind (scan? · further) :=
  List.foldlM_append

/-- What can be scanned can be scanned within parentheses. -/
theorem scan?_within {place next : Place} {text : List Char}
    (scanned : place.scan? text = some next) (outer : Nat) :
    (place.within outer).scan? text = some (next.within outer) := by
  induction text generalizing place with
  | nil =>
      cases scanned
      rfl
  | cons character text later =>
      rw [scan?_cons] at scanned ⊢
      rcases Option.bind_eq_some_iff.mp scanned with ⟨middle, read, rest⟩
      rw [step?_within read outer]
      exact later rest

theorem step?_double (depth : Nat) {character : Char} (plain : character ≠ '"') :
    step? ⟨depth, .double⟩ character = some ⟨depth, .double⟩ := by
  simp only [step?, if_neg plain]

/-- Between double quotes a text with doubled quotes stays. -/
theorem scan?_doubleQuotes (depth : Nat) (name : List Char) :
    scan? ⟨depth, .double⟩ (doubleQuotes name) = some ⟨depth, .double⟩ := by
  induction name with
  | nil => rfl
  | cons character name shorter =>
      by_cases quote : character = '"'
      · rw [doubleQuotes, if_pos quote]
        exact shorter
      · rw [doubleQuotes, if_neg quote, scan?_cons, step?_double depth quote]
        exact shorter

theorem scan?_quoteName (depth : Nat) (name : List Char) :
    scan? ⟨depth, .outside⟩ (quoteName name) = some ⟨depth, .outside⟩ := by
  have opens : step? ⟨depth, .outside⟩ '"' = some ⟨depth, .double⟩ := rfl
  rw [quoteName, scan?_cons, opens, Option.bind_some, scan?_append, scan?_doubleQuotes]
  rfl

end Place

/-! ## Balanced texts -/

/-- A text that closes what it opens, and nothing else. -/
def Balanced (text : List Char) : Prop :=
  Place.start.scan? text = some .start

instance (text : List Char) : Decidable (Balanced text) :=
  inferInstanceAs (Decidable (_ = _))

namespace Balanced

variable {text further : List Char}

theorem append (balanced : Balanced text) (also : Balanced further) :
    Balanced (text ++ further) := by
  rw [Balanced, Place.scan?_append, balanced]
  exact also

/-- A balanced text leads nowhere else, wherever it stands outside of quotes. -/
theorem scan? (balanced : Balanced text) (depth : Nat) :
    Place.scan? ⟨depth, .outside⟩ text = some ⟨depth, .outside⟩ := by
  have scanned := Place.scan?_within balanced depth
  rwa [Place.within, Place.start, Nat.zero_add] at scanned

/-- A balanced text in parentheses is balanced. -/
theorem parenthesized (balanced : Balanced text) : Balanced ('(' :: (text ++ [')'])) := by
  have opens : Place.start.step? '(' = some ⟨1, .outside⟩ := rfl
  rw [Balanced, Place.scan?_cons, opens, Option.bind_some, Place.scan?_append, balanced.scan? 1]
  rfl

/-- Inside of parentheses all of a balanced text is inside of them. -/
theorem depth_pos {upTo beyond : List Char} (balanced : Balanced (upTo ++ beyond)) :
    ∃ place, Place.scan? ⟨1, .outside⟩ upTo = some place ∧ 0 < place.depth := by
  rw [Balanced, Place.scan?_append] at balanced
  rcases Option.bind_eq_some_iff.mp balanced with ⟨place, scanned, -⟩
  exact ⟨place.within 1, Place.scan?_within scanned 1, Nat.succ_pos _⟩

/-- A balanced text closes no parenthesis that was opened in front of it. -/
theorem not_append_close (balanced : Balanced text) (behind : List Char) :
    ¬Balanced (text ++ ')' :: behind) := by
  intro closes
  rw [Balanced, Place.scan?_append, balanced] at closes
  cases closes

theorem eq_nil_of_append_close {between rest behind : List Char} (balanced : Balanced text)
    (also : Balanced (text ++ between)) (same : ')' :: rest = between ++ ')' :: behind) :
    between = [] := by
  cases between with
  | nil => rfl
  | cons character between =>
      cases same
      exact absurd also (balanced.not_append_close between)

/-- The parenthesis that closes a balanced text can be found, whatever follows it. -/
theorem append_close_inj {other rest behind : List Char} (balanced : Balanced text)
    (also : Balanced other) (same : text ++ ')' :: rest = other ++ ')' :: behind) :
    text = other ∧ rest = behind := by
  rcases List.append_eq_append_iff.mp same with ⟨between, rfl, starts⟩ | ⟨between, rfl, starts⟩
  · cases balanced.eq_nil_of_append_close also starts
    exact ⟨(List.append_nil text).symm, List.tail_eq_of_cons_eq starts⟩
  · cases also.eq_nil_of_append_close balanced starts
    exact ⟨List.append_nil other, (List.tail_eq_of_cons_eq starts).symm⟩

end Balanced

theorem balanced_quoteName (name : List Char) : Balanced (quoteName name) :=
  Place.scan?_quoteName 0 name

/-! ## Groups -/

/-- What stands between two outermost parentheses, and what stands between these and
the group in front of them. -/
structure Group where
  front : List Char
  inside : List Char
deriving DecidableEq, Repr

/-- A text that is being cut at its outermost parentheses: the groups so far, the text
in front of the group that is open, and the text since the last cut. -/
structure Cut where
  place : Place
  groups : List Group
  front : List Char
  piece : List Char
deriving DecidableEq, Repr

namespace Cut

/-- Cut behind one character if it opens or closes an outermost parenthesis. -/
def step? (cut : Cut) (character : Char) : Option Cut :=
  (cut.place.step? character).map fun next =>
    if cut.place.depth = 0 ∧ next.depth = 1 then ⟨next, cut.groups, cut.piece, []⟩
    else if cut.place.depth = 1 ∧ next.depth = 0 then
      ⟨next, cut.groups ++ [⟨cut.front, cut.piece⟩], [], []⟩
    else { cut with place := next, piece := cut.piece ++ [character] }

/-- Nothing is cut inside of parentheses. -/
theorem foldlM_step?_within {place next : Place} {text : List Char}
    (scanned : place.scan? text = some next) (groups : List Group) (front piece : List Char) :
    text.foldlM step? ⟨place.within 1, groups, front, piece⟩ =
      some ⟨next.within 1, groups, front, piece ++ text⟩ := by
  induction text generalizing place piece with
  | nil =>
      cases scanned
      rw [List.append_nil]
      rfl
  | cons character text later =>
      rw [Place.scan?_cons] at scanned
      rcases Option.bind_eq_some_iff.mp scanned with ⟨middle, read, rest⟩
      have kept : step? ⟨place.within 1, groups, front, piece⟩ character =
          some ⟨middle.within 1, groups, front, piece ++ [character]⟩ := by
        rw [step?, Place.step?_within read, Option.map_some]
        simp [Place.within]
      have all : piece ++ character :: text = piece ++ [character] ++ text := by
        rw [List.append_assoc, List.singleton_append]
      rw [List.foldlM_cons, kept, all]
      exact later rest _

/-- Outside of parentheses a text without parentheses and quotes is what stands in front
of the next group. -/
theorem foldlM_step?_plain {text : List Char}
    (plain : ∀ character ∈ text, Place.start.step? character = some .start)
    (groups : List Group) (front piece rest : List Char) :
    (text ++ rest).foldlM step? ⟨.start, groups, front, piece⟩ =
      rest.foldlM step? ⟨.start, groups, front, piece ++ text⟩ := by
  induction text generalizing piece with
  | nil => rw [List.nil_append, List.append_nil]
  | cons character text later =>
      rcases List.forall_mem_cons.mp plain with ⟨read, others⟩
      have kept : step? ⟨.start, groups, front, piece⟩ character =
          some ⟨.start, groups, front, piece ++ [character]⟩ := by
        rw [step?, read]
        rfl
      rw [List.cons_append, List.foldlM_cons, kept, Option.bind_eq_bind, Option.bind_some,
        later others, List.append_assoc, List.singleton_append]

/-- A balanced text in parentheses becomes a group. -/
theorem foldlM_step?_group {inside : List Char} (balanced : Balanced inside)
    (groups : List Group) (front piece rest : List Char) :
    ('(' :: (inside ++ ')' :: rest)).foldlM step? ⟨.start, groups, front, piece⟩ =
      rest.foldlM step? ⟨.start, groups ++ [⟨piece, inside⟩], [], []⟩ := by
  have opens : step? ⟨.start, groups, front, piece⟩ '(' =
      some ⟨Place.start.within 1, groups, piece, []⟩ :=
    rfl
  have closes : step? ⟨Place.start.within 1, groups, piece, inside⟩ ')' =
      some ⟨.start, groups ++ [⟨piece, inside⟩], [], []⟩ :=
    rfl
  rw [List.foldlM_cons, opens, Option.bind_eq_bind, Option.bind_some, List.foldlM_append,
    foldlM_step?_within balanced, List.nil_append, Option.bind_eq_bind, Option.bind_some,
    List.foldlM_cons, closes]
  rfl

end Cut

/-- The groups of a text and what is left behind the last one, if all that is opened is
closed. -/
def groups? (text : List Char) : Option (List Group × List Char) := do
  let cut ← text.foldlM Cut.step? ⟨.start, [], [], []⟩
  if cut.place = .start then return (cut.groups, cut.piece) else none

end CardShell.Text
