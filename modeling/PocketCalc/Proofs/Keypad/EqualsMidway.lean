import PocketCalc.Proofs.Expression.Continuation
import PocketCalc.Proofs.Keypad.Typing

/-!
# An equals key in the middle of a calculation

After an equals key an operator key goes on from the answer.  The answer is a
text that is read again as its number, the sign of a zero aside, so whatever is
typed behind the operator comes to what it comes to without that equals key.
-/

namespace PocketCalc

/-- An equals key would succeed with an expression. -/
def HasValue (expression : Text) : Prop :=
  ∃ number notices, evaluate expression = .ok (.value number, notices)

namespace State

variable
  {token : Text}
  {left right : State}
  {leftOutcome rightOutcome : Outcome}
  {leftNotices rightNotices : List Notice}

/-- Equals keys with alike outcomes give the same answer. -/
theorem pressed_equals_of_alike
    (errorText : Text)
    (means : Control.ofToken? token = some .equals)
    (leftTyped : left.expression ≠ [])
    (rightTyped : right.expression ≠ [])
    (leftFresh : left.justEvaluated = false)
    (rightFresh : right.justEvaluated = false)
    (leftEvaluated :
      evaluate left.expression = .ok (leftOutcome, leftNotices))
    (rightEvaluated :
      evaluate right.expression = .ok (rightOutcome, rightNotices))
    (alike : leftOutcome.Alike rightOutcome) :
    let leftEnd := (left.pressed token errorText).1
    let rightEnd := (right.pressed token errorText).1
    leftEnd.expression = rightEnd.expression ∧
      leftEnd.justEvaluated = true ∧
      rightEnd.justEvaluated = true ∧
      (HasValue left.expression ↔ HasValue right.expression) ∧
      (HasValue right.expression →
        ∃ leftNewest rightNewest,
          leftEnd.history = leftNewest :: left.history ∧
            rightEnd.history = rightNewest :: right.history ∧
              leftNewest.result = rightNewest.result) ∧
      (¬HasValue right.expression →
        leftEnd.expression = errorText ∧
          leftEnd.history = left.history ∧
            rightEnd.history = right.history) := by
  intro leftEnd rightEnd
  cases leftOutcome with
  | value leftNumber =>
      cases rightOutcome with
      | failure cause => cases alike
      | value rightNumber =>
          have leftValue : HasValue left.expression :=
            ⟨leftNumber, leftNotices, leftEvaluated⟩
          have rightValue : HasValue right.expression :=
            ⟨rightNumber, rightNotices, rightEvaluated⟩
          have displays := Binary64.display_eq_of_sameValue alike
          rcases
              pressed_equals_of_value errorText means leftTyped leftFresh
                leftEvaluated with
            ⟨leftNewest, _, leftResult, leftPressed⟩
          rcases
              pressed_equals_of_value errorText means rightTyped rightFresh
                rightEvaluated with
            ⟨rightNewest, _, rightResult, rightPressed⟩
          change leftEnd = _ at leftPressed
          change rightEnd = _ at rightPressed
          rw [leftPressed, rightPressed]
          refine ⟨displays, rfl, rfl, ?_, ?_, ?_⟩
          · exact iff_of_true leftValue rightValue
          · intro _
            refine ⟨leftNewest, rightNewest, rfl, rfl, ?_⟩
            rw [leftResult, rightResult, displays]
          · intro noValue
            exact absurd rightValue noValue
  | failure leftCause =>
      cases rightOutcome with
      | value number => cases alike
      | failure rightCause =>
          have noLeftValue : ¬HasValue left.expression := by
            rintro ⟨number, notices, evaluated⟩
            rw [leftEvaluated] at evaluated
            cases evaluated
          have noRightValue : ¬HasValue right.expression := by
            rintro ⟨number, notices, evaluated⟩
            rw [rightEvaluated] at evaluated
            cases evaluated
          have leftPressed : leftEnd = _ :=
            congrArg Prod.fst
              (pressed_equals_failure errorText means leftTyped leftFresh
                leftEvaluated)
          have rightPressed : rightEnd = _ :=
            congrArg Prod.fst
              (pressed_equals_failure errorText means rightTyped rightFresh
                rightEvaluated)
          rw [leftPressed, rightPressed]
          refine ⟨rfl, rfl, rfl, ?_, ?_, ?_⟩
          · exact iff_of_false noLeftValue noRightValue
          · intro value
            exact absurd value noRightValue
          · intro _
            exact ⟨rfl, rfl, rfl⟩

end State

/--
Pressing equals in the middle of a calculation is transparent.  Before the
last equals key the two runs have different expressions, but the key succeeds
with both or with neither, with the same result text or the text for errors,
and the display is the same.
-/
theorem equals_midway_transparent
    {state : State}
    {stream : TokenStream}
    {number : Binary64}
    {notices : List Notice}
    {firstEquals operatorKey lastEquals : Text}
    {keys : List Text}
    (errorText : Text)
    (fresh : state.justEvaluated = false)
    (tokenized : tokenize (sanitize state.expression) = .ok stream)
    (someNumber : stream.numbers ≠ [])
    (evaluated : evaluate state.expression = .ok (.value number, notices))
    (finite : number.isFinite = true)
    (isFirstEquals : Control.ofToken? firstEquals = some .equals)
    (isOperator : Key.isOperator operatorKey = true)
    (typed : ∀ key ∈ keys, Key.isTyped key = true)
    (isLastEquals : Control.ofToken? lastEquals = some .equals) :
    let midway :=
      (state.pressedAll errorText (firstEquals :: operatorKey :: keys)).1
    let direct := (state.pressedAll errorText (operatorKey :: keys)).1
    let midwayEnd :=
      (state.pressedAll errorText
        (firstEquals :: operatorKey :: keys ++ [lastEquals])).1
    let directEnd :=
      (state.pressedAll errorText (operatorKey :: keys ++ [lastEquals])).1
    midwayEnd.display = directEnd.display ∧
      midwayEnd.justEvaluated = true ∧
      directEnd.justEvaluated = true ∧
      (HasValue midway.expression ↔ HasValue direct.expression) ∧
      (HasValue direct.expression →
        ∃ midwayNewest directNewest,
          midwayEnd.history = midwayNewest :: midway.history ∧
            directEnd.history = directNewest :: direct.history ∧
              midwayNewest.result = directNewest.result) ∧
      (¬HasValue direct.expression →
        midwayEnd.expression = errorText ∧
          directEnd.expression = errorText ∧
            midwayEnd.history = midway.history ∧
              directEnd.history = direct.history) := by
  intro midway direct midwayEnd directEnd
  rcases Key.exists_operator_of_isOperator isOperator with
    ⟨character, operator, rfl, spelled⟩
  have comes := comesTo_of_evaluate tokenized someNumber evaluated
  have answerComes := comesTo_display finite
  rcases
      State.pressed_equals_of_value errorText isFirstEquals comes.ne_nil fresh
        evaluated with
    ⟨newest, _, _, pressed⟩
  have directEqual :
      direct =
        { state with
          expression := state.expression ++ character :: keys.flatten
          justEvaluated := false } :=
    State.pressedAll_operator errorText isOperator typed
  have midwayEqual :
      midway =
        { expression := number.display ++ character :: keys.flatten
          history := newest :: state.history } := by
    simp only [midway]
    rw [State.pressedAll_cons, pressed]
    exact State.pressedAll_operator errorText isOperator typed
  have midwayEndEqual :
      midwayEnd = (midway.pressed lastEquals errorText).1 :=
    State.pressedAll_append errorText _ [lastEquals]
  have directEndEqual :
      directEnd = (direct.pressed lastEquals errorText).1 :=
    State.pressedAll_append errorText _ [lastEquals]
  rcases
      evaluate_continued_alike answerComes comes
        (Binary64.unsignedZero_sameValue number) spelled keys.flatten with
    ⟨midwayOutcome, directOutcome, midwayNotices, directNotices,
      midwayEvaluated, directEvaluated, alike⟩
  have midwayTyped : midway.expression ≠ [] := by
    rw [midwayEqual]
    exact List.append_ne_nil_of_right_ne_nil _ (List.cons_ne_nil _ _)
  have directTyped : direct.expression ≠ [] := by
    rw [directEqual]
    exact List.append_ne_nil_of_right_ne_nil _ (List.cons_ne_nil _ _)
  have midwayFresh : midway.justEvaluated = false := by
    rw [midwayEqual]
  have directFresh : direct.justEvaluated = false := by
    rw [directEqual]
  have midwayOutcomes :
      evaluate midway.expression = .ok (midwayOutcome, midwayNotices) := by
    rw [midwayEqual]
    exact midwayEvaluated
  have directOutcomes :
      evaluate direct.expression = .ok (directOutcome, directNotices) := by
    rw [directEqual]
    exact directEvaluated
  have answers :=
    State.pressed_equals_of_alike errorText isLastEquals midwayTyped
      directTyped midwayFresh directFresh midwayOutcomes directOutcomes alike
  rw [← midwayEndEqual, ← directEndEqual] at answers
  rcases answers with
    ⟨expressions, midwayFlag, directFlag, values, success, failure⟩
  refine ⟨?_, midwayFlag, directFlag, values, success, ?_⟩
  · rw [State.display, State.display, expressions]
  · intro noValue
    rcases failure noValue with ⟨shown, midwayHistory, directHistory⟩
    exact ⟨shown, expressions.symm.trans shown, midwayHistory, directHistory⟩

/-- With and without an equals key behind 2-5, the keys ×-4 give one display. -/
theorem equals_midway_two_minus_five :
    let state : State := { expression := ['2', '-', '5'] }
    let keys : List Text := [['×'], ['-'], ['4'], ['=']]
    (state.pressedAll "Error" (['='] :: keys)).1.display =
      (state.pressedAll "Error" keys).1.display := by
  intro state keys
  have tokenized :
      tokenize (sanitize state.expression) =
        .ok
          ⟨[Binary64.ofDecimal false ⟨2, 0⟩, Binary64.ofDecimal false ⟨5, 0⟩],
            [['-']], by decide⟩ :=
    rfl
  have evaluated := evaluate_of_tokenize tokenized rfl
  have finite :
      ((Binary64.ofDecimal false ⟨2, 0⟩).sub
        (Binary64.ofDecimal false ⟨5, 0⟩)).isFinite = true := by
    decide +kernel
  have transparent :=
    equals_midway_transparent "Error" rfl tokenized (by simp) evaluated finite
      (show Control.ofToken? ['='] = some .equals by decide)
      (show Key.isOperator ['×'] = true by decide)
      (show ∀ key ∈ [['-'], ['4']], Key.isTyped key = true by decide)
      (show Control.ofToken? ['='] = some .equals by decide)
  exact transparent.1

end PocketCalc
