import PocketCalc.Expression.Evaluate
import PocketCalc.Keypad.Edit

/-!
# Pressing a key

The equals key evaluates the expression and shows the answer in its place: the
result, which the history records, or the text for errors.  Every other key
edits the expression or is ignored with a notice.

Each step below can fail by itself: a token may not be appendable, a control
key may edit nothing, a symbol may have no operation, a calculation may lack a
text.  The last theorem says that a pressed key meets none of these faults.
-/

namespace PocketCalc

/-- What could go wrong below a pressed key. -/
inductive PressFault where
  | notAppendable (refusal : NotAppendable)
  | unknownSymbol (unknown : UnknownSymbol)
  | incompleteCalculation (complaints : List Complaint)
  | noEditing (control : Control)
deriving DecidableEq

namespace State

/-- The state after an equals key whose expression had an outcome. -/
def answered
    (state : State)
    (errorText : Text) :
    Outcome → Except PressFault (State × List Notice)
  | .value number =>
      let result := number.display
      match state.history.record state.expression result with
      | .error complaints => .error (.incompleteCalculation complaints)
      | .ok (_, history) =>
          .ok
            ({ expression := result
               justEvaluated := true
               history := history },
              [.evaluated state.expression result])
  | .failure cause =>
      .ok
        ({ state with
           expression := errorText
           justEvaluated := true },
          [.notEvaluated state.expression cause])

/--
Press the equals key.  Nothing happens without an expression or directly after
another equals key.
-/
def equals (state : State) (errorText : Text) :
    Except PressFault (State × List Notice) :=
  if state.expression = [] ∨ state.justEvaluated then
    .ok (state, [])
  else
    match evaluate state.expression with
    | .error unknown => .error (.unknownSymbol unknown)
    | .ok (outcome, notices) =>
        (state.answered errorText outcome).map fun (next, more) =>
          (next, notices ++ more)

/-- Press the key with the given token. -/
def press (state : State) (token errorText : Text) :
    Except PressFault (State × List Notice) :=
  match Control.ofToken? token with
  | some .equals => state.equals errorText
  | some control =>
      match editing? control with
      | some edit => .ok (edit state)
      | none => .error (.noEditing control)
  | none =>
      if Key.isNumber token || Key.isOperator token then
        match state.append token with
        | .ok next => .ok (next, [])
        | .error refusal => .error (.notAppendable refusal)
      else
        .ok (state, [.unknownKey token])

/-! ## A pressed key meets no fault -/

theorem answered_ok
    {state : State}
    (errorText : Text)
    (outcome : Outcome)
    (typed : state.expression ≠ []) :
    ∃ next notices,
      state.answered errorText outcome = .ok (next, notices) := by
  cases outcome with
  | failure cause => exact ⟨_, _, rfl⟩
  | value number =>
      simp [answered, History.record, Calculation.ofTexts?, typed,
        Binary64.display_ne_nil, Except.map]

theorem equals_ok (state : State) (errorText : Text) :
    ∃ next notices, state.equals errorText = .ok (next, notices) := by
  unfold equals
  split
  · exact ⟨_, _, rfl⟩
  · rename_i ready
    obtain ⟨outcome, notices, evaluated⟩ := evaluate_ok state.expression
    obtain ⟨next, more, answered⟩ :=
      answered_ok errorText outcome (fun empty => ready (.inl empty))
    rw [evaluated]
    dsimp only
    rw [answered]
    exact ⟨_, _, rfl⟩

theorem append_ok
    (state : State)
    {token : Text}
    (appendable : (Key.isNumber token || Key.isOperator token) = true) :
    ∃ next, state.append token = .ok next := by
  unfold append
  rw [if_pos appendable]
  exact ⟨_, rfl⟩

theorem press_ok (state : State) (token errorText : Text) :
    ∃ next notices,
      state.press token errorText = .ok (next, notices) := by
  unfold press
  split
  · exact equals_ok state errorText
  · rename_i control notEquals _
    cases control with
    | equals => exact absurd rfl notEquals
    | clear => exact ⟨_, _, rfl⟩
    | backspace => exact ⟨_, _, rfl⟩
    | toggleSign => exact ⟨_, _, rfl⟩
  · split
    · rename_i appendable
      obtain ⟨next, appended⟩ := append_ok state appendable
      rw [appended]
      exact ⟨_, _, rfl⟩
    · exact ⟨_, _, rfl⟩

end State

end PocketCalc
