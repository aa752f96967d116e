import PocketCalc.Proofs.Keypad.Typing

/-!
# The effects of keys

There are nine ways in which a key changes a state or leaves it as it is.  The
relation below names them, each with its condition, the state that follows and
the notices given.  Every pressed key has one of these effects, so whatever
all of them keep is kept by every key, and an invariant of a run needs one case
for each of them.
-/

namespace PocketCalc

/-- The state and the notices that follow when the key with a token is pressed. -/
inductive KeyEffect (errorText token : Text) (state : State) :
    State × List Notice → Prop where
  /-- An equals key shows and records the value of the expression. -/
  | recorded
      {number : Binary64}
      {notices : List Notice}
      {entry : Calculation}
      (means : Control.ofToken? token = some .equals)
      (typed : state.expression ≠ [])
      (fresh : state.justEvaluated = false)
      (evaluated :
        evaluate state.expression = .ok (.value number, notices))
      (expression : entry.expression = state.expression)
      (result : entry.result = number.display) :
      KeyEffect errorText token state
        ({ expression := number.display
           justEvaluated := true
           history := entry :: state.history },
          notices ++ [.evaluated state.expression number.display])
  /-- An equals key shows the text for errors. -/
  | failed
      {cause : FailureCause}
      {notices : List Notice}
      (means : Control.ofToken? token = some .equals)
      (typed : state.expression ≠ [])
      (fresh : state.justEvaluated = false)
      (evaluated :
        evaluate state.expression = .ok (.failure cause, notices)) :
      KeyEffect errorText token state
        ({ state with
           expression := errorText
           justEvaluated := true },
          notices ++ [.notEvaluated state.expression cause])
  /-- An equals key has nothing to evaluate. -/
  | idle
      (means : Control.ofToken? token = some .equals)
      (nothing : state.expression = [] ∨ state.justEvaluated = true) :
      KeyEffect errorText token state (state, [])
  | cleared
      (means : Control.ofToken? token = some .clear) :
      KeyEffect errorText token state (state.clear, [])
  | shortened
      (means : Control.ofToken? token = some .backspace) :
      KeyEffect errorText token state (state.backspace, [])
  | toggled
      (means : Control.ofToken? token = some .toggleSign) :
      KeyEffect errorText token state state.toggleSign
  /-- A number key begins a new expression in the place of an answer. -/
  | begun
      (number : Key.isNumber token = true)
      (answered : state.justEvaluated = true) :
      KeyEffect errorText token state
        ({ state with
           expression := token
           justEvaluated := false }, [])
  /-- A typed key goes on with the expression or with an answer. -/
  | continued
      (typed : Key.isTyped token = true)
      (goesOn : state.justEvaluated = true → Key.isNumber token = false) :
      KeyEffect errorText token state
        ({ state with
           expression := state.expression ++ token
           justEvaluated := false }, [])
  | unknown
      (noControl : Control.ofToken? token = none)
      (untyped : Key.isTyped token = false) :
      KeyEffect errorText token state (state, [.unknownKey token])

namespace State

@[simp]
theorem backspace_history (state : State) :
    state.backspace.history = state.history := by
  rw [backspace]
  split <;> rfl

@[simp]
theorem toggleSign_history (state : State) :
    state.toggleSign.1.history = state.history := by
  rw [toggleSign]
  split
  · rfl
  · split
    · rfl
    · split <;> rfl

/-- A number key begins a new expression directly after an answer. -/
theorem pressed_number_of_answered
    {state : State}
    {token : Text}
    (errorText : Text)
    (number : Key.isNumber token = true)
    (answered : state.justEvaluated = true) :
    state.pressed token errorText =
      ({ state with
         expression := token
         justEvaluated := false }, []) := by
  apply pressed_eq_of_press
  have typed : (Key.isNumber token || Key.isOperator token) = true := by
    rw [number, Bool.true_or]
  rw [press, Key.ofToken?_of_isTyped typed]
  dsimp only
  rw [if_pos typed, append, if_pos typed, number, answered]
  rfl

theorem pressed_equals_of_idle
    {state : State}
    {token : Text}
    (errorText : Text)
    (means : Control.ofToken? token = some .equals)
    (nothing : state.expression = [] ∨ state.justEvaluated = true) :
    state.pressed token errorText = (state, []) := by
  apply pressed_eq_of_press
  rw [press, means]
  exact if_pos nothing

/-- A control key other than the equals key edits the expression. -/
theorem pressed_editing
    {state : State}
    {token : Text}
    {control : Control}
    {edit : State → State × List Notice}
    (errorText : Text)
    (means : Control.ofToken? token = some control)
    (edits : editing? control = some edit) :
    state.pressed token errorText = edit state := by
  apply pressed_eq_of_press
  rw [press, means]
  cases control with
  | equals => cases edits
  | clear => cases edits; rfl
  | backspace => cases edits; rfl
  | toggleSign => cases edits; rfl

theorem pressed_unknown
    {state : State}
    {token : Text}
    (errorText : Text)
    (noControl : Control.ofToken? token = none)
    (untyped : Key.isTyped token = false) :
    state.pressed token errorText = (state, [.unknownKey token]) := by
  apply pressed_eq_of_press
  rw [press, noControl]
  exact if_neg (ne_true_of_eq_false untyped)

/-- An equals key that finds an expression has the effect of its outcome. -/
theorem keyEffect_equals
    {state : State}
    {token : Text}
    (errorText : Text)
    (means : Control.ofToken? token = some .equals) :
    KeyEffect errorText token state (state.pressed token errorText) := by
  by_cases nothing : state.expression = [] ∨ state.justEvaluated = true
  · rw [pressed_equals_of_idle errorText means nothing]
    exact .idle means nothing
  · rw [not_or, Bool.not_eq_true] at nothing
    rcases nothing with ⟨typed, fresh⟩
    rcases evaluate_ok state.expression with ⟨outcome, notices, evaluated⟩
    cases outcome with
    | value number =>
        rw [pressed_equals_value errorText means typed fresh evaluated]
        exact .recorded means typed fresh evaluated rfl rfl
    | failure cause =>
        rw [pressed_equals_failure errorText means typed fresh evaluated]
        exact .failed means typed fresh evaluated

/-- Every pressed key has one of the effects. -/
theorem keyEffect_pressed (state : State) (token errorText : Text) :
    KeyEffect errorText token state (state.pressed token errorText) := by
  cases means : Control.ofToken? token with
  | some control =>
      cases control with
      | equals => exact keyEffect_equals errorText means
      | clear =>
          rw [pressed_editing errorText means rfl]
          exact .cleared means
      | backspace =>
          rw [pressed_editing errorText means rfl]
          exact .shortened means
      | toggleSign =>
          rw [pressed_editing errorText means rfl]
          exact .toggled means
  | none =>
      cases typed : Key.isTyped token with
      | false =>
          rw [pressed_unknown errorText means typed]
          exact .unknown means typed
      | true =>
          by_cases begins :
              state.justEvaluated = true ∧ Key.isNumber token = true
          · rw [pressed_number_of_answered errorText begins.2 begins.1]
            exact .begun begins.2 begins.1
          · have goesOn :
                state.justEvaluated = true → Key.isNumber token = false := by
              intro answered
              rw [← Bool.not_eq_true]
              intro number
              exact begins ⟨answered, number⟩
            rw [pressed_typed errorText typed goesOn]
            exact .continued typed goesOn

/-! ## The keys that evaluate -/

/-- The outcome of the evaluation that a key starts, if it starts one. -/
def outcome? (state : State) (token : Text) : Option Outcome :=
  if Control.ofToken? token = some .equals ∧
      state.expression ≠ [] ∧ state.justEvaluated = false then
    (evaluate state.expression).toOption.map (·.1)
  else
    none

/-- The failure of the evaluation that a key starts, if it starts one that fails. -/
def failure? (state : State) (token : Text) : Option Failure :=
  match state.outcome? token with
  | some (.failure cause) => some (.ofCause cause)
  | _ => none

section Outcomes

variable
  {state : State}
  {token : Text}
  {outcome : Outcome}
  {notices : List Notice}

theorem outcome?_of_evaluate
    (means : Control.ofToken? token = some .equals)
    (typed : state.expression ≠ [])
    (fresh : state.justEvaluated = false)
    (evaluated : evaluate state.expression = .ok (outcome, notices)) :
    state.outcome? token = some outcome := by
  rw [outcome?, if_pos ⟨means, typed, fresh⟩, evaluated]
  rfl

theorem outcome?_of_token
    {control : Option Control}
    (means : Control.ofToken? token = control)
    (other : control ≠ some .equals) :
    state.outcome? token = none :=
  if_neg fun ready => other (means.symm.trans ready.1)

theorem outcome?_of_typed (typed : Key.isTyped token = true) :
    state.outcome? token = none :=
  outcome?_of_token (Key.ofToken?_of_isTyped typed) nofun

theorem outcome?_of_idle
    (nothing : state.expression = [] ∨ state.justEvaluated = true) :
    state.outcome? token = none := by
  apply if_neg
  rintro ⟨_, typed, fresh⟩
  rcases nothing with empty | answered
  · exact typed empty
  · rw [fresh] at answered
    cases answered

/-- Exactly the equals keys evaluate that find an expression which is no answer. -/
theorem exists_outcome?_iff :
    (∃ outcome, state.outcome? token = some outcome) ↔
      Control.ofToken? token = some .equals ∧
        state.expression ≠ [] ∧ state.justEvaluated = false := by
  constructor
  · rintro ⟨outcome, evaluates⟩
    rw [outcome?] at evaluates
    split at evaluates
    · assumption
    · cases evaluates
  · rintro ⟨means, typed, fresh⟩
    rcases evaluate_ok state.expression with ⟨outcome, notices, evaluated⟩
    exact ⟨outcome, outcome?_of_evaluate means typed fresh evaluated⟩

end Outcomes

end State

end PocketCalc
