import PocketCalc.Proofs.Expression.Foreign
import PocketCalc.Proofs.Keypad.LongestRun

/-!
# The number at the end of an expression

The number at the end of an expression is the longest run there.  It is a last
part of the expression, and it has digits and points only.  Changing the sign
takes this part away and puts the text of another number in its place; whatever
stands before it stays.
-/

namespace PocketCalc

theorem exists_append_of_trailingNumber?
    {expression run : Text}
    (found : trailingNumber? expression = some run) :
    ∃ before,
      expression = before ++ run ∧
        ∀ character ∈ run, isNumberCharacter character = true := by
  rw [trailingNumber?_eq_some_iff] at found
  rcases found.1.atEnd with ⟨before, split⟩
  exact ⟨before, split.symm, found.1.isRun.1⟩

theorem trailingNumber?_ne_nil
    {expression run : Text}
    (found : trailingNumber? expression = some run) :
    run ≠ [] :=
  ((trailingNumber?_eq_some_iff expression run).mp found).2

/-- A run of digits behind something else is the number at the end. -/
theorem trailingNumber?_append
    {before run : Text}
    (nonempty : run ≠ [])
    (characters : ∀ character ∈ run, isNumberCharacter character = true)
    (points : run.count '.' ≤ 1)
    (behind : ¬EndsInNumber before) :
    trailingNumber? (before ++ run) = some run := by
  rw [trailingNumber?_eq_some_iff]
  refine ⟨isLongestRun_append ⟨characters, points⟩ ?_, nonempty⟩
  intro character last longer
  rw [isRun_cons_iff] at longer
  rw [EndsInNumber, Option.mem_def.mp last] at behind
  exact behind longer.1

/-! ## Glyphs -/

theorem trailingRun_of_not_number
    {character : Char}
    (other : isNumberCharacter character = false)
    (pointAllowed : Bool)
    (run before : Text) :
    trailingRun pointAllowed run (character :: before) = run := by
  rw [isNumberCharacter, Bool.or_eq_false_iff, decide_eq_false_iff_not] at other
  rw [trailingRun, if_neg other.2, other.1]
  rfl

/-- The search for the number at the end does not see the glyphs. -/
theorem trailingRun_sanitize
    (pointAllowed : Bool)
    (run reversed : Text) :
    trailingRun pointAllowed run (sanitize reversed) =
      trailingRun pointAllowed run reversed := by
  induction reversed generalizing pointAllowed run with
  | nil => rfl
  | cons character before ih =>
      rw [sanitize_cons]
      rcases plainCharacter_number character with same | ⟨other, otherPlain⟩
      · rw [same, trailingRun, trailingRun, ih, ih]
      · rw [trailingRun_of_not_number other,
          trailingRun_of_not_number otherPlain]

theorem trailingNumber?_sanitize (expression : Text) :
    trailingNumber? (sanitize expression) = trailingNumber? expression := by
  have reversed :
      (sanitize expression).reverse = sanitize expression.reverse :=
    List.map_reverse.symm
  rw [trailingNumber?, reversed, trailingRun_sanitize, trailingNumber?]

/-! ## A number at the end -/

/-- A lone point is no number. -/
theorem ofLiteral?_point : Binary64.ofLiteral? ['.'] = none :=
  rfl

namespace State

/--
The expression is no answer, and the digits and points at its end denote a
number.
-/
structure EndsIn
    (state : State)
    (before run : Text)
    (value : Binary64) : Prop where
  fresh : state.justEvaluated = false
  split : state.expression = before ++ run
  trailing : trailingNumber? state.expression = some run
  read : Binary64.ofLiteral? run = some value

/-- The number that a change of sign writes, if it changes anything. -/
def toggled? (state : State) : Option Binary64 :=
  if state.expression = [] ∨ state.justEvaluated then
    none
  else
    ((trailingNumber? state.expression).bind Binary64.ofLiteral?).map
      Binary64.neg

section EndsIn

variable
  {state : State}
  {before run : Text}
  {value : Binary64}
  (ends : state.EndsIn before run value)

include ends

theorem EndsIn.run_ne_nil : run ≠ [] :=
  trailingNumber?_ne_nil ends.trailing

theorem EndsIn.characters :
    ∀ character ∈ run, isNumberCharacter character = true := by
  rcases exists_append_of_trailingNumber? ends.trailing with
    ⟨_, _, characters⟩
  exact characters

theorem EndsIn.not_idle :
    ¬(state.expression = [] ∨ state.justEvaluated = true) := by
  rw [ends.split, ends.fresh, List.append_eq_nil_iff]
  rintro (⟨_, empty⟩ | answered)
  · exact ends.run_ne_nil empty
  · cases answered

theorem EndsIn.toggled?_eq : state.toggled? = some value.neg := by
  rw [toggled?, if_neg ends.not_idle, ends.trailing, Option.bind_some,
    ends.read, Option.map_some]

/-- The text of the opposite number is put in the place of the number. -/
theorem EndsIn.toggleSign_eq :
    state.toggleSign.1 =
      { state with expression := before ++ value.neg.display } := by
  rw [toggleSign, if_neg ends.not_idle, ends.trailing]
  dsimp only
  rw [ends.read, ends.split]
  simp

end EndsIn

/-- Changing the sign leaves the state, or the expression ends in a number. -/
theorem toggleSign_cases (state : State) :
    (state.toggleSign.1 = state ∧ state.toggled? = none) ∨
      ∃ before run value, state.EndsIn before run value := by
  by_cases idle : state.expression = [] ∨ state.justEvaluated = true
  · left
    rw [toggleSign, toggled?, if_pos idle, if_pos idle]
    exact ⟨rfl, rfl⟩
  · cases trailing : trailingNumber? state.expression with
    | none =>
        left
        rw [toggleSign, toggled?, if_neg idle, if_neg idle, trailing]
        exact ⟨rfl, rfl⟩
    | some run =>
        cases read : Binary64.ofLiteral? run with
        | none =>
            left
            rw [toggleSign, toggled?, if_neg idle, if_neg idle, trailing]
            dsimp only
            rw [read, Option.bind_some, read]
            exact ⟨rfl, rfl⟩
        | some value =>
            rcases exists_append_of_trailingNumber? trailing with
              ⟨before, split, _⟩
            rw [not_or, Bool.not_eq_true] at idle
            exact Or.inr ⟨before, run, value, idle.2, split, trailing, read⟩

end State

end PocketCalc
