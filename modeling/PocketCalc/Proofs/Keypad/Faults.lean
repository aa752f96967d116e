import PocketCalc.Proofs.Expression.Classification
import PocketCalc.Proofs.Keypad.KeyEffect

/-!
# Faults below a pressed key

Seven operations below a pressed key can fail by themselves.  Five of them are
never asked for what they refuse: a token is appended only if it is typed, the
edits are looked up only for the other control keys, a token stream is made of
the symbols of the scanner and looks up only these, and the history is only
given texts that are not empty.  The faults of the other two, which read
numbers and divide with remainder, come back as outcomes or notices.

The results say for each operation where it fails, and then that no fault of
any of them leaves a pressed key, whatever the state, the token and the text
for errors are.
-/

namespace PocketCalc

/-! ## Where the operations fail -/

namespace State

theorem append_eq_error_iff (state : State) (token : Text) :
    (∃ refusal, state.append token = .error refusal) ↔
      Key.isTyped token = false := by
  rw [append, ← Key.isTyped]
  cases Key.isTyped token with
  | true =>
      constructor
      · rintro ⟨refusal, failed⟩
        cases failed
      · intro untyped
        cases untyped
  | false => exact iff_of_true ⟨_, rfl⟩ rfl

theorem editing?_eq_none_iff (control : Control) :
    editing? control = none ↔ control = .equals := by
  cases control <;> simp [editing?]

end State

theorem History.record_eq_error_iff
    (history : History)
    (expression result : Text) :
    (∃ complaints, history.record expression result = .error complaints) ↔
      expression = [] ∨ result = [] := by
  rw [History.record, Calculation.ofTexts?]
  by_cases texts : expression ≠ [] ∧ result ≠ []
  · rw [dif_pos texts]
    constructor
    · rintro ⟨complaints, failed⟩
      cases failed
    · rintro (empty | empty)
      · exact absurd empty texts.1
      · exact absurd empty texts.2
  · rw [dif_neg texts]
    refine iff_of_true ⟨_, rfl⟩ ?_
    rw [not_and_or, not_not, not_not] at texts
    exact texts

theorem Operator.apply_eq_error_iff
    (operator : Operator)
    (running operand : Binary64) :
    (∃ fault, operator.apply running operand = .error fault) ↔
      operator = .remainder ∧
        operator.stop? running operand = some .malformedExpression := by
  cases operator with
  | remainder =>
      rw [apply]
      rcases remainder_cases running operand with
        ⟨stops, failed⟩ | ⟨free, succeeded⟩
      · rw [failed]
        exact iff_of_true ⟨_, rfl⟩ ⟨rfl, stops⟩
      · rw [succeeded, free]
        constructor
        · rintro ⟨fault, failed⟩
          cases failed
        · rintro ⟨_, stops⟩
          cases stops
  | add | subtract | multiply | divide =>
      constructor
      · rintro ⟨fault, failed⟩
        cases failed
      · rintro ⟨other, _⟩
        cases other

/-! ## What becomes of the faults -/

/-- An operation without a result ends the reduction with its fault. -/
theorem TokenStream.reduceFrom_of_fault
    {operator : Operator}
    {running operand : Binary64}
    {fault : ArithmeticFault}
    (failed : operator.apply running operand = .error fault)
    (rest : List (Text × Binary64)) :
    reduceFrom running (([operator.symbol], operand) :: rest) =
      .ok (.failure (.arithmetic fault)) := by
  have isRemainder :=
    ((operator.apply_eq_error_iff running operand).mp ⟨fault, failed⟩).1
  subst isRemainder
  rw [reduceFrom, Operator.divides_symbol, Operator.ofSymbol?_symbol]
  dsimp only
  rw [failed]
  rfl

/-- What the scanner finds makes a token stream that has an outcome. -/
theorem Scanner.exists_outcome_of_run
    {expression : Text}
    {finished : Scanner}
    (ran : start.run expression expression = .ok finished) :
    ∃ stream,
      TokenStream.ofParts? finished.numbers finished.operators = .ok stream ∧
        (∀ symbol ∈ stream.operators,
          ∃ operator, Operator.ofSymbol? symbol = some operator) ∧
          ∃ outcome, stream.reduce = .ok outcome := by
  have known := run_symbolsOnly start_symbolsOnly ran
  rcases TokenStream.exists_ofParts? finished.numbers known with
    ⟨stream, made, _, operators⟩
  rw [SymbolsOnly, ← operators] at known
  refine ⟨stream, made, ?_, TokenStream.reduce_ok known⟩
  intro symbol member
  rcases known symbol member with ⟨operator, rfl⟩
  exact ⟨operator, operator.ofSymbol?_symbol⟩

/--
What becomes of every fault that an operation below a pressed key can have:
either the operation is not asked, or asked only for what it does not refuse,
or its fault comes back as an outcome or a notice.
-/
structure State.ContainsFaults
    (state : State)
    (token errorText : Text) : Prop where
  /-- A token that cannot be appended is that of a control key, or is ignored. -/
  refused :
    ∀ refusal,
      state.append token = .error refusal →
        (∃ control, Control.ofToken? token = some control) ∨
          state.press token errorText = .ok (state, [.unknownKey token])
  /-- The one control key without an edit is not looked up among the edits. -/
  unedited :
    ∀ control,
      Control.ofToken? token = some control →
        editing? control = none →
          state.press token errorText = state.equals errorText
  /-- The scanned operators are accepted, and each of them has an operation. -/
  streamed :
    ∀ finished : Scanner,
      Scanner.start.run (sanitize state.expression)
            (sanitize state.expression) =
          .ok finished →
        ∃ stream,
          TokenStream.ofParts? finished.numbers finished.operators =
              .ok stream ∧
            (∀ symbol ∈ stream.operators,
              ∃ operator, Operator.ofSymbol? symbol = some operator) ∧
              ∃ outcome, stream.reduce = .ok outcome
  /-- Characters that are no number or out of place fail the evaluation. -/
  unreadable :
    ∀ fault,
      tokenize (sanitize state.expression) = .error fault →
        evaluate state.expression = .ok (.failure (.unreadable fault), [])
  /-- An operation without a result fails the evaluation wherever it stands. -/
  unfinished :
    ∀ (operator : Operator) (running operand : Binary64) fault rest,
      operator.apply running operand = .error fault →
        TokenStream.reduceFrom running (([operator.symbol], operand) :: rest) =
          .ok (.failure (.arithmetic fault))
  /-- The history refuses only an empty expression, which is not evaluated. -/
  recorded :
    ∀ (number : Binary64) complaints,
      state.history.record state.expression number.display =
          .error complaints →
        state.equals errorText = .ok (state, [])
  /-- Digits at the end that are no number keep their sign and are reported. -/
  untoggled :
    ∀ run,
      trailingNumber? state.expression = some run →
        Binary64.ofLiteral? run = none →
          state.expression ≠ [] →
            state.justEvaluated = false →
              state.toggleSign = (state, [.notToggled run])

/--
No fault leaves a pressed key.  Whatever the state, the token and the text for
errors are, the key leads to a state, and each fault of an operation below it
is out of reach or is taken up on the way.
-/
theorem press_contains_faults (state : State) (token errorText : Text) :
    (∃ next notices,
        state.press token errorText = .ok (next, notices)) ∧
      state.ContainsFaults token errorText := by
  refine ⟨state.press_ok token errorText, ?_⟩
  constructor
  case refused =>
    intro refusal failed
    have untyped := (state.append_eq_error_iff token).mp ⟨refusal, failed⟩
    cases means : Control.ofToken? token with
    | some control => exact Or.inl ⟨control, rfl⟩
    | none =>
        right
        rw [State.press_eq_ok_pressed,
          State.pressed_unknown errorText means untyped]
  case unedited =>
    intro control means noEdit
    rw [State.editing?_eq_none_iff] at noEdit
    subst noEdit
    rw [State.press, means]
  case streamed =>
    intro finished ran
    exact Scanner.exists_outcome_of_run ran
  case unreadable =>
    intro fault failed
    rw [evaluate, failed]
  case unfinished =>
    intro operator running operand fault rest failed
    exact TokenStream.reduceFrom_of_fault failed rest
  case recorded =>
    intro number complaints failed
    have empty :=
      (History.record_eq_error_iff _ _ _).mp ⟨complaints, failed⟩
    exact if_pos (Or.inl (empty.resolve_right number.display_ne_nil))
  case untoggled =>
    intro run trailing unread typed fresh
    rw [State.toggleSign, if_neg (by simp [typed, fresh]), trailing]
    dsimp only
    rw [unread]

/-- An infinite number has no remainder by 2, and the equals key takes this up. -/
theorem press_contains_remainder_of_infinity :
    let state : State := { expression := ("1e999%2" : Text) }
    let two := Binary64.ofDecimal false ⟨2, 0⟩
    ∃ fault,
      Operator.remainder.apply (.infinite false) two = .error fault ∧
        TokenStream.reduceFrom (.infinite false) [(['%'], two)] =
            .ok (.failure (.arithmetic fault)) ∧
          ∃ next notices, state.press ['='] "Error" = .ok (next, notices) := by
  intro state two
  rcases press_contains_faults state ['='] "Error" with ⟨goesOn, contained⟩
  have failed :
      ∃ fault,
        Operator.remainder.apply (.infinite false) two = .error fault := by
    rw [Operator.apply_eq_error_iff]
    exact ⟨rfl, by decide +kernel⟩
  rcases failed with ⟨fault, failed⟩
  exact
    ⟨fault, failed, contained.unfinished .remainder _ two fault [] failed,
      goesOn⟩

end PocketCalc
