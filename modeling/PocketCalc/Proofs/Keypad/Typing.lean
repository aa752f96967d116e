import PocketCalc.Expression.Operator
import PocketCalc.Session

/-!
# Typing

Number keys and operator keys are typed: they append their character to the
expression and are no controls.  A run of typed keys appends its characters in
their order.  The equals key shows what the typed expression evaluates to.
-/

namespace PocketCalc

namespace Key

/-- Whether a token is a number key or an operator key. -/
def isTyped (token : Text) : Bool :=
  isNumber token || isOperator token

theorem exists_numberRow_of_isNumber
    {token : Text}
    (number : isNumber token = true) :
    ∃ character, token = [character] ∧ character ∈ numberRow := by
  rw [isNumber.eq_def] at number
  split at number
  · rename_i character
    exact ⟨character, rfl, List.contains_iff_mem.mp number⟩
  · cases number

theorem exists_operatorRow_of_isOperator
    {token : Text}
    (operator : isOperator token = true) :
    ∃ character, token = [character] ∧ character ∈ operatorRow := by
  rw [isOperator.eq_def] at operator
  split at operator
  · rename_i character
    exact ⟨character, rfl, List.contains_iff_mem.mp operator⟩
  · cases operator

/-- Every operator key stands for an operator. -/
theorem exists_operator_of_isOperator
    {token : Text}
    (isOperator : isOperator token = true) :
    ∃ character, ∃ operator : Operator,
      token = [character] ∧ plainCharacter character = operator.symbol := by
  rcases exists_operatorRow_of_isOperator isOperator with
    ⟨character, rfl, member⟩
  have symbols :
      operatorRow.all (fun character =>
        Operator.isSymbol (plainCharacter character)) = true :=
    rfl
  have known := List.all_eq_true.mp symbols character member
  rcases Operator.exists_symbol_eq known with ⟨operator, symbol⟩
  exact ⟨character, operator, rfl, symbol.symm⟩

theorem not_isNumber_of_isOperator
    {token : Text}
    (operator : isOperator token = true) :
    isNumber token = false := by
  rcases exists_operatorRow_of_isOperator operator with
    ⟨character, rfl, member⟩
  have apart :
      operatorRow.all (fun character => !isNumber [character]) = true :=
    rfl
  have other := List.all_eq_true.mp apart character member
  exact Bool.not_eq_true' _ |>.mp other

theorem isTyped_of_isNumber
    {token : Text}
    (number : isNumber token = true) :
    isTyped token = true := by
  rw [isTyped, number, Bool.true_or]

/-- No typed key is a control. -/
theorem ofToken?_of_isTyped
    {token : Text}
    (typed : isTyped token = true) :
    Control.ofToken? token = none := by
  have noControl :
      (numberRow ++ operatorRow).all (fun character =>
        (Control.ofToken? [character]).isNone) = true :=
    rfl
  rw [List.all_eq_true] at noControl
  rw [isTyped, Bool.or_eq_true] at typed
  rw [← Option.isNone_iff_eq_none]
  rcases typed with number | operator
  · rcases exists_numberRow_of_isNumber number with ⟨character, rfl, member⟩
    exact noControl character (List.mem_append_left _ member)
  · rcases exists_operatorRow_of_isOperator operator with
      ⟨character, rfl, member⟩
    exact noControl character (List.mem_append_right _ member)

end Key

namespace State

variable
  {state : State}
  (errorText : Text)

/-! ## Single keys -/

theorem pressed_eq_of_press
    {errorText token : Text}
    {next : State × List Notice}
    (succeeded : state.press token errorText = .ok next) :
    state.pressed token errorText = next := by
  rw [press_eq_ok_pressed] at succeeded
  exact Except.ok.inj succeeded

/-- A typed key goes on with the expression, or begins a new one. -/
theorem pressed_typed
    {token : Text}
    (typed : Key.isTyped token = true)
    (goesOn : state.justEvaluated = true → Key.isNumber token = false) :
    state.pressed token errorText =
      ({ state with
         expression := state.expression ++ token
         justEvaluated := false }, []) := by
  apply pressed_eq_of_press
  have kept : (state.justEvaluated && Key.isNumber token) = false := by
    cases evaluated : state.justEvaluated with
    | false => rfl
    | true => exact goesOn evaluated
  rw [press, Key.ofToken?_of_isTyped typed]
  dsimp only
  rw [Key.isTyped] at typed
  rw [if_pos typed, append, if_pos typed, kept]
  rfl

/-- An equals key shows and records the value of an expression. -/
theorem pressed_equals_value
    {token : Text}
    {number : Binary64}
    {notices : List Notice}
    (means : Control.ofToken? token = some .equals)
    (typed : state.expression ≠ [])
    (fresh : state.justEvaluated = false)
    (evaluated :
      evaluate state.expression = .ok (.value number, notices)) :
    state.pressed token errorText =
      ({ expression := number.display
         justEvaluated := true
         history :=
           ⟨state.expression, number.display, typed, number.display_ne_nil⟩ ::
             state.history },
        notices ++ [.evaluated state.expression number.display]) := by
  have texts : state.expression ≠ [] ∧ number.display ≠ [] :=
    ⟨typed, number.display_ne_nil⟩
  apply pressed_eq_of_press
  rw [press, means]
  dsimp only
  rw [equals, if_neg (by simp [typed, fresh]), evaluated]
  dsimp only
  rw [answered, History.record, Calculation.ofTexts?, dif_pos texts]
  rfl

/-- An equals key shows the text for errors if there is no value. -/
theorem pressed_equals_failure
    {token : Text}
    {cause : FailureCause}
    {notices : List Notice}
    (means : Control.ofToken? token = some .equals)
    (typed : state.expression ≠ [])
    (fresh : state.justEvaluated = false)
    (evaluated :
      evaluate state.expression = .ok (.failure cause, notices)) :
    state.pressed token errorText =
      ({ state with
         expression := errorText
         justEvaluated := true },
        notices ++ [.notEvaluated state.expression cause]) := by
  apply pressed_eq_of_press
  rw [press, means]
  dsimp only
  rw [equals, if_neg (by simp [typed, fresh]), evaluated]
  rfl

/-- The newest calculation is the one of an equals key with a value. -/
theorem pressed_equals_of_value
    {token : Text}
    {number : Binary64}
    {notices : List Notice}
    (means : Control.ofToken? token = some .equals)
    (typed : state.expression ≠ [])
    (fresh : state.justEvaluated = false)
    (evaluated :
      evaluate state.expression = .ok (.value number, notices)) :
    ∃ calculation : Calculation,
      calculation.expression = state.expression ∧
        calculation.result = number.display ∧
          (state.pressed token errorText).1 =
            { expression := number.display
              justEvaluated := true
              history := calculation :: state.history } := by
  have pressed :=
    pressed_equals_value errorText means typed fresh evaluated
  exact ⟨_, rfl, rfl, congrArg Prod.fst pressed⟩

/-! ## Runs of keys -/

theorem pressedAll_cons (token : Text) (rest : List Text) :
    (state.pressedAll errorText (token :: rest)).1 =
      ((state.pressed token errorText).1.pressedAll errorText rest).1 :=
  rfl

theorem pressedAll_append (left right : List Text) :
    (state.pressedAll errorText (left ++ right)).1 =
      ((state.pressedAll errorText left).1.pressedAll errorText right).1 := by
  induction left generalizing state with
  | nil => rfl
  | cons token left ih =>
      rw [List.cons_append, pressedAll_cons, pressedAll_cons, ih]

/-- Typed keys append their characters. -/
theorem pressedAll_typed
    {keys : List Text}
    (typed : ∀ key ∈ keys, Key.isTyped key = true)
    (fresh : state.justEvaluated = false) :
    (state.pressedAll errorText keys).1 =
      { state with expression := state.expression ++ keys.flatten } := by
  induction keys generalizing state with
  | nil =>
      rw [List.flatten_nil, List.append_nil]
      rfl
  | cons key keys ih =>
      rw [List.forall_mem_cons] at typed
      have pressed :
          state.pressed key errorText =
            ({ state with
               expression := state.expression ++ key
               justEvaluated := false }, []) := by
        apply pressed_typed errorText typed.1
        intro evaluated
        rw [fresh] at evaluated
        cases evaluated
      rw [pressedAll_cons, pressed, ih typed.2 rfl, List.flatten_cons,
        List.append_assoc, fresh]

/-- An operator key goes on from an answer, and other typed keys follow. -/
theorem pressedAll_operator
    {operatorKey : Text}
    {keys : List Text}
    (operator : Key.isOperator operatorKey = true)
    (typed : ∀ key ∈ keys, Key.isTyped key = true) :
    (state.pressedAll errorText (operatorKey :: keys)).1 =
      { state with
        expression := state.expression ++ (operatorKey ++ keys.flatten)
        justEvaluated := false } := by
  have operatorTyped : Key.isTyped operatorKey = true := by
    rw [Key.isTyped, operator, Bool.or_true]
  have pressed :
      state.pressed operatorKey errorText =
        ({ state with
           expression := state.expression ++ operatorKey
           justEvaluated := false }, []) := by
    apply pressed_typed errorText operatorTyped
    intro _
    exact Key.not_isNumber_of_isOperator operator
  rw [pressedAll_cons, pressed, pressedAll_typed errorText typed rfl,
    List.append_assoc]

end State

end PocketCalc
