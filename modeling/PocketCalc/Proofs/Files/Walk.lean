import PocketCalc.Files.Store

/-!
# Walks along paths

The place that a path leads to depends on its names and on where it begins: each
name goes one step on or back.  What stands in the store decides whether the walk
gets there.  It does if the path is not too long, no name but a step back is too
long, and every such name, but for the last one, is that of a directory.

A place that was walked to has directories above it and nothing else.
-/

namespace PocketCalc

namespace Store

/-- The place that one name leads to. -/
def step (place : Place) (name : Text) : Place :=
  if name = back then place.dropLast else place ++ [name]

/-- The place that names lead to, whatever stands on the way. -/
def follow (place : Place) (names : List Text) : Place :=
  names.foldl step place

section Steps

variable
  {place target : Place}
  {name : Text}
  {names rest : List Text}

@[simp]
theorem follow_nil : follow place [] = place :=
  rfl

@[simp]
theorem follow_cons :
    follow place (name :: rest) = follow (step place name) rest :=
  rfl

theorem follow_append (before after : List Text) :
    follow place (before ++ after) = follow (follow place before) after :=
  List.foldl_append

theorem step_back : step place back = place.dropLast :=
  if_pos rfl

theorem step_of_ne_back (forward : name ≠ back) :
    step place name = place ++ [name] :=
  if_neg forward

/-- Names that are no steps back lead below the place. -/
theorem follow_of_forward (forward : back ∉ names) :
    follow place names = place ++ names := by
  induction names generalizing place with
  | nil => simp
  | cons name rest ih =>
      simp only [List.mem_cons, not_or] at forward
      rw [follow_cons, step_of_ne_back (Ne.symm forward.1), ih forward.2]
      simp

/-- A step back takes a name away at most, and every other name is added. -/
theorem length_follow_le (place : Place) (names : List Text) :
    (follow place names).length ≤
      place.length + (names.filter (· ≠ back)).length := by
  induction names generalizing place with
  | nil => simp
  | cons name rest ih =>
      have later := ih (step place name)
      rw [follow_cons, List.filter_cons]
      by_cases backward : name = back
      · rw [if_neg (by simpa using backward)]
        rw [backward, step_back, List.length_dropLast] at later
        rw [backward, step_back]
        omega
      · rw [if_pos (by simpa using backward), List.length_cons]
        rw [step_of_ne_back backward, List.length_append,
          List.length_singleton] at later
        rw [step_of_ne_back backward]
        omega

/-- Names with a step back among them lead less far than the others alone. -/
theorem length_follow_lt
    (below : place ≠ [])
    (goesBack : back ∈ names) :
    (follow place names).length <
      place.length + (names.filter (· ≠ back)).length := by
  rcases List.eq_append_cons_of_mem goesBack with
    ⟨before, after, rfl, forward⟩
  have positive := List.length_pos_iff.mpr below
  have later := length_follow_le (place ++ before).dropLast after
  have kept : before.filter (· ≠ back) = before := by
    apply List.filter_eq_self.mpr
    intro name member
    rw [decide_eq_true_eq]
    rintro rfl
    exact forward member
  rw [List.length_dropLast, List.length_append] at later
  rw [follow_append, follow_of_forward forward, follow_cons, step_back,
    List.filter_append, kept, List.filter_cons, if_neg (by simp),
    List.length_append]
  omega

end Steps

/-! ## Walks that get to their place -/

/--
Names can be walked along from a place: each of them but the steps back is short
enough, and all but the last one are those of directories.
-/
def Passable (store : Store) (place : Place) (names : List Text) : Prop :=
  ∀ before name after,
    names = before ++ name :: after →
      name ≠ back →
        isTooLong name = false ∧
          (after ≠ [] →
            store.find? (follow place before ++ [name]) = some .directory)

section Walks

variable
  {store : Store}
  {path : Path}
  {place target parent : Place}
  {name : Text}
  {names rest : List Text}

theorem passable_nil : store.Passable place [] := by
  intro before name after split
  simp at split

theorem passable_cons_iff :
    store.Passable place (name :: rest) ↔
      (name ≠ back →
          isTooLong name = false ∧
            (rest ≠ [] →
              store.find? (place ++ [name]) = some .directory)) ∧
        store.Passable (step place name) rest := by
  constructor
  · intro passable
    constructor
    · exact passable [] name rest rfl
    · intro before other after split
      exact passable (name :: before) other after (by simp [split])
  · rintro ⟨here, later⟩ before other after split
    cases before with
    | nil =>
        cases split
        exact here
    | cons first before =>
        cases split
        exact later before other after rfl

/-- A walk gets to the place that its names lead to, if it gets anywhere. -/
theorem walk_eq_ok_iff :
    store.walk place names = .ok target ↔
      follow place names = target ∧ store.Passable place names := by
  induction names generalizing place with
  | nil => simp [walk, passable_nil]
  | cons name rest ih =>
      rw [walk, follow_cons, passable_cons_iff]
      by_cases backward : name = back
      · rw [if_pos backward, ih, step, if_pos backward]
        simp [backward]
      · rw [if_neg backward, step_of_ne_back backward]
        cases long : isTooLong name with
        | true => simp [backward]
        | false =>
            by_cases last : rest = []
            · simp [last, passable_nil]
            · simp only [last, backward, Bool.false_eq_true, ↓reduceIte,
                ne_eq, not_false_eq_true, forall_const, true_and]
              cases found : store.find? (place ++ [name]) with
              | none => simp
              | some node =>
                  cases node with
                  | directory => simp [ih]
                  | file bytes => simp

theorem locate_eq_ok_iff :
    store.locate path = .ok place ↔
      exceedsLimit path = false ∧
        follow (store.start path.anchor) path.names = place ∧
          store.Passable (store.start path.anchor) path.names := by
  rw [locate]
  cases long : exceedsLimit path with
  | true => simp
  | false => simp [walk_eq_ok_iff]

/-- A path leads to the place of its names, if it leads anywhere. -/
theorem follow_of_locate (located : store.locate path = .ok place) :
    follow (store.start path.anchor) path.names = place :=
  (locate_eq_ok_iff.mp located).2.1

/-! ## Above a place -/

/-- The working directory and those above it are there. -/
theorem find?_of_isPrefix (above : place <+: store.workingDirectory) :
    store.find? place = some .directory := by
  rw [find?, if_pos (List.isPrefixOf_iff_prefix.mpr above)]

/-- Directories stand at the beginning of every path and above it. -/
theorem find?_above_start
    {anchor : Anchor}
    (above : parent <+: store.start anchor) :
    store.find? parent = some .directory := by
  apply find?_of_isPrefix
  cases anchor with
  | here => exact above
  | root => exact above.trans List.nil_prefix
  | doubleRoot => exact above.trans List.nil_prefix

/-- One step from an open place to a directory leads to an open place. -/
theorem find?_above_step
    (openPlace :
      ∀ parent, parent <+: place → store.find? parent = some .directory)
    (entered :
      name ≠ back → store.find? (place ++ [name]) = some .directory)
    (above : parent <+: step place name) :
    store.find? parent = some .directory := by
  by_cases backward : name = back
  · rw [step, if_pos backward] at above
    exact openPlace parent (above.trans (List.dropLast_prefix place))
  · rw [step_of_ne_back backward, List.prefix_concat_iff] at above
    rcases above with rfl | above
    · exact entered backward
    · exact openPlace parent above

/-- Directories stand above a place that was walked to. -/
theorem find?_above_walk
    (passable : store.Passable place names)
    (openPlace :
      ∀ parent, parent <+: place → store.find? parent = some .directory)
    (above : parent <+: follow place names)
    (strictly : parent ≠ follow place names) :
    store.find? parent = some .directory := by
  induction names generalizing place with
  | nil => exact openPlace parent above
  | cons name rest ih =>
      rw [passable_cons_iff] at passable
      rw [follow_cons] at above strictly
      by_cases last : rest = [] ∧ name ≠ back
      · rcases last with ⟨rfl, forward⟩
        rw [step_of_ne_back forward, follow_nil] at above strictly
        rw [List.prefix_concat_iff] at above
        exact openPlace parent (above.resolve_left strictly)
      · apply ih passable.2 _ above strictly
        intro higher
        apply find?_above_step openPlace
        intro forward
        exact (passable.1 forward).2 (fun none => last ⟨none, forward⟩)

/-- A path that leads to a place leads there through directories. -/
theorem find?_above_locate
    (located : store.locate path = .ok place)
    (above : parent <+: place)
    (strictly : parent ≠ place) :
    store.find? parent = some .directory := by
  rcases locate_eq_ok_iff.mp located with ⟨_, rfl, passable⟩
  exact
    find?_above_walk passable (fun _ => find?_above_start) above strictly

end Walks

end Store

end PocketCalc
