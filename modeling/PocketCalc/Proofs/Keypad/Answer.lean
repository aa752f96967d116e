import Mathlib.Data.List.Induction
import PocketCalc.Proofs.Keypad.KeyEffect

/-!
# The flag tells whether the display shows an answer

A key that evaluates sets the flag and shows its answer: the text for errors, or
a result that is also the newest one of the history.  Every other key leaves the
state as it is or takes the flag back.  So in a run that began without the flag,
a flag that is set goes back to the last key that evaluated, and nothing has
changed since.
-/

namespace PocketCalc

namespace State

/-- The state shows the answer that belongs to an outcome. -/
def Shows (state : State) (errorText : Text) : Outcome → Prop
  | .failure _ => state.expression = errorText
  | .value number =>
      state.expression = number.display ∧
        ∃ newest older,
          state.history = newest :: older ∧ state.expression = newest.result

theorem Shows.ne_nil
    {state : State}
    {errorText : Text}
    {outcome : Outcome}
    (shows : state.Shows errorText outcome)
    (visible : errorText ≠ []) :
    state.expression ≠ [] := by
  cases outcome with
  | failure cause =>
      rw [Shows] at shows
      rw [shows]
      exact visible
  | value number =>
      rw [shows.1]
      exact number.display_ne_nil

theorem toggleSign_of_answered
    {state : State}
    (answered : state.justEvaluated = true) :
    state.toggleSign = (state, []) :=
  if_pos (.inr answered)

@[simp]
theorem toggleSign_justEvaluated (state : State) :
    state.toggleSign.1.justEvaluated = state.justEvaluated := by
  rw [toggleSign]
  split
  · rfl
  · split
    · rfl
    · split <;> rfl

end State

/-! ## One key -/

/--
A key that evaluates sets the flag and shows its answer; any other key leaves
the state or leaves it without the flag.
-/
theorem KeyEffect.answer
    {errorText token : Text}
    {state : State}
    {following : State × List Notice}
    (effect : KeyEffect errorText token state following) :
    (∃ outcome,
        state.outcome? token = some outcome ∧
          following.1.justEvaluated = true ∧
            following.1.Shows errorText outcome) ∨
      (state.outcome? token = none ∧
        (following.1 = state ∨ following.1.justEvaluated = false)) := by
  cases effect with
  | @recorded number notices entry means typed fresh evaluated expression result =>
      left
      exact
        ⟨_, State.outcome?_of_evaluate means typed fresh evaluated, rfl, rfl,
          entry, state.history, rfl, result.symm⟩
  | failed means typed fresh evaluated =>
      left
      exact
        ⟨_, State.outcome?_of_evaluate means typed fresh evaluated, rfl, rfl⟩
  | idle means nothing =>
      exact Or.inr ⟨State.outcome?_of_idle nothing, .inl rfl⟩
  | cleared means =>
      exact Or.inr ⟨State.outcome?_of_token means (by decide), .inr rfl⟩
  | shortened means =>
      refine Or.inr ⟨State.outcome?_of_token means (by decide), ?_⟩
      rw [State.backspace]
      split
      · exact .inl rfl
      · exact .inr rfl
  | toggled means =>
      refine Or.inr ⟨State.outcome?_of_token means (by decide), ?_⟩
      cases answered : state.justEvaluated with
      | true =>
          exact .inl (congrArg Prod.fst (State.toggleSign_of_answered answered))
      | false => exact .inr (state.toggleSign_justEvaluated.trans answered)
  | begun number answered =>
      have typed := Key.isTyped_of_isNumber number
      exact Or.inr ⟨State.outcome?_of_typed typed, .inr rfl⟩
  | continued typed goesOn =>
      exact Or.inr ⟨State.outcome?_of_typed typed, .inr rfl⟩
  | unknown noControl untyped =>
      exact Or.inr ⟨State.outcome?_of_token noControl (by decide), .inl rfl⟩

/-- The keys that leave an answer as it is: equals, change of sign, no key at all. -/
def Key.KeepsAnswer (token : Text) : Prop :=
  Control.ofToken? token = some .equals ∨
    Control.ofToken? token = some .toggleSign ∨
      (Control.ofToken? token = none ∧ isTyped token = false)

instance (token : Text) : Decidable (Key.KeepsAnswer token) :=
  inferInstanceAs (Decidable (_ ∨ _ ∨ _))

namespace State

variable
  {state : State}
  {token : Text}
  (errorText : Text)

/-- On an answer these keys change nothing. -/
theorem pressed_of_keepsAnswer
    (answered : state.justEvaluated = true)
    (keeps : Key.KeepsAnswer token) :
    (state.pressed token errorText).1 = state := by
  rcases keeps with equals | toggles | ⟨noControl, untyped⟩
  · rw [pressed_equals_of_idle errorText equals (.inr answered)]
  · rw [pressed_editing errorText toggles rfl]
    exact congrArg Prod.fst (toggleSign_of_answered answered)
  · rw [pressed_unknown errorText noControl untyped]

/-- On an answer every other key takes the flag back. -/
theorem pressed_of_not_keepsAnswer
    (typed : state.expression ≠ [])
    (other : ¬Key.KeepsAnswer token) :
    (state.pressed token errorText).1.justEvaluated = false := by
  rw [Key.KeepsAnswer, not_or, not_or, not_and, Bool.not_eq_false] at other
  rcases other with ⟨noEquals, noToggle, known⟩
  have effect := keyEffect_pressed state token errorText
  generalize state.pressed token errorText = following at effect
  cases effect with
  | recorded means => exact absurd means noEquals
  | failed means => exact absurd means noEquals
  | idle means => exact absurd means noEquals
  | cleared means => rfl
  | shortened means => rw [backspace, if_neg typed]
  | toggled means => exact absurd means noToggle
  | begun number answered => rfl
  | continued isTyped goesOn => rfl
  | unknown noControl untyped =>
      rw [known noControl] at untyped
      cases untyped

/-- Without the flag, exactly an equals key on an expression sets it. -/
theorem pressed_justEvaluated_iff (fresh : state.justEvaluated = false) :
    (state.pressed token errorText).1.justEvaluated = true ↔
      Control.ofToken? token = some .equals ∧ state.expression ≠ [] := by
  rcases (keyEffect_pressed state token errorText).answer with
    ⟨outcome, evaluates, answered, _⟩ | ⟨idle, kept⟩
  · rcases exists_outcome?_iff.mp ⟨outcome, evaluates⟩ with ⟨means, typed, _⟩
    exact iff_of_true answered ⟨means, typed⟩
  · apply iff_of_false
    · rcases kept with same | without
      · rw [same, fresh]
        exact Bool.false_ne_true
      · rw [without]
        exact Bool.false_ne_true
    · rintro ⟨means, typed⟩
      rcases exists_outcome?_iff.mpr ⟨means, typed, fresh⟩ with
        ⟨outcome, evaluates⟩
      rw [idle] at evaluates
      cases evaluates

end State

/-! ## Runs of keys -/

/--
The last key of a run that evaluated something: where it stands, its outcome,
and that the state with its answer has not changed since.
-/
structure State.LastAnswer
    (start : State)
    (errorText : Text)
    (keys before : List Text)
    (token : Text)
    (rest : List Text)
    (outcome : Outcome) : Prop where
  split : keys = before ++ token :: rest
  evaluated :
    (start.pressedAll errorText before).1.outcome? token = some outcome
  unchanged :
    ∀ inert, inert <+: rest →
      (start.pressedAll errorText (before ++ token :: inert)).1 =
        (start.pressedAll errorText keys).1
  last :
    ∀ inert other, inert ++ [other] <+: rest →
      (start.pressedAll errorText (before ++ token :: inert)).1.outcome? other =
        none
  shows : (start.pressedAll errorText keys).1.Shows errorText outcome

namespace State

variable
  {start : State}
  {errorText token : Text}
  {keys before rest : List Text}
  {outcome : Outcome}

/-- A key that evaluates is the last one when it has been pressed. -/
theorem lastAnswer_of_evaluates
    (evaluated :
      (start.pressedAll errorText keys).1.outcome? token = some outcome)
    (shows :
      (start.pressedAll errorText (keys ++ [token])).1.Shows errorText
        outcome) :
    start.LastAnswer errorText (keys ++ [token]) keys token [] outcome where
  split := rfl
  evaluated := evaluated
  unchanged := by
    intro inert inside
    rw [List.prefix_nil.mp inside]
  last := by
    intro inert other inside
    exact absurd (List.prefix_nil.mp inside) (List.concat_ne_nil other inert)
  shows := shows

/-- One more key that changes nothing keeps the last answer. -/
theorem LastAnswer.concat
    {key : Text}
    (answer : start.LastAnswer errorText keys before token rest outcome)
    (idle : (start.pressedAll errorText keys).1.outcome? key = none)
    (same :
      (start.pressedAll errorText (keys ++ [key])).1 =
        (start.pressedAll errorText keys).1) :
    start.LastAnswer errorText (keys ++ [key]) before token (rest ++ [key])
      outcome where
  split := by rw [answer.split, List.append_assoc, List.cons_append]
  evaluated := answer.evaluated
  unchanged := by
    intro inert inside
    rcases List.prefix_concat_iff.mp inside with whole | shorter
    · rw [whole, answer.split, List.append_assoc, List.cons_append]
    · rw [same, answer.unchanged inert shorter]
  last := by
    intro inert other inside
    rcases List.prefix_concat_iff.mp inside with whole | shorter
    · rcases List.append_inj' whole rfl with ⟨rfl, sameKey⟩
      cases sameKey
      rw [answer.unchanged inert (List.prefix_refl inert)]
      exact idle
    · exact answer.last inert other shorter
  shows := by
    rw [same]
    exact answer.shows

/-- A flag that a run has set goes back to the last key that evaluated. -/
theorem exists_lastAnswer
    (fresh : start.justEvaluated = false)
    (keys : List Text)
    (answered : (start.pressedAll errorText keys).1.justEvaluated = true) :
    ∃ before token rest outcome,
      start.LastAnswer errorText keys before token rest outcome := by
  induction keys using List.reverseRecOn with
  | nil =>
      change start.justEvaluated = true at answered
      rw [fresh] at answered
      cases answered
  | append_singleton keys key ih =>
      have ended :
          (start.pressedAll errorText (keys ++ [key])).1 =
            ((start.pressedAll errorText keys).1.pressed key errorText).1 :=
        pressedAll_append errorText keys [key]
      rcases
          (keyEffect_pressed (start.pressedAll errorText keys).1 key
            errorText).answer with
        ⟨outcome, evaluated, _, shows⟩ | ⟨idle, same | without⟩
      · rw [← ended] at shows
        exact ⟨keys, key, [], outcome, lastAnswer_of_evaluates evaluated shows⟩
      · rw [← ended] at same
        rw [same] at answered
        rcases ih answered with ⟨before, token, rest, outcome, answer⟩
        exact
          ⟨before, token, rest ++ [key], outcome, answer.concat idle same⟩
      · rw [ended, without] at answered
        cases answered

end State

/--
The flag tells the truth about the display.  Wherever a fresh session has got
to with the flag set, the expression is not empty, the last key that evaluated
something is followed by keys that changed nothing only, and the expression is
the text for errors or the newest result, as that evaluation came out; equals
keys, changes of sign and unknown keys keep the whole state, and all other keys
take the flag back.  Without the flag, exactly an equals key on an expression
sets it.
-/
theorem just_evaluated_shows_last_answer
    {settings : Settings}
    (visible : settings.errorText ≠ [])
    (keys : List Text) :
    let fresh : Session := { settings := settings }
    let reached : State := (fresh.pressAll keys).1.state
    (reached.justEvaluated = true →
        reached.expression ≠ [] ∧
          (∃ before token rest outcome,
            fresh.state.LastAnswer settings.errorText keys before token rest
              outcome) ∧
            ∀ token,
              (Key.KeepsAnswer token →
                  (reached.pressed token settings.errorText).1 = reached) ∧
                (¬Key.KeepsAnswer token →
                  (reached.pressed token settings.errorText).1.justEvaluated =
                    false)) ∧
      (reached.justEvaluated = false →
        ∀ token,
          (reached.pressed token settings.errorText).1.justEvaluated = true ↔
            Control.ofToken? token = some .equals ∧
              reached.expression ≠ []) := by
  intro fresh reached
  constructor
  · intro answered
    have found :
        ∃ before token rest outcome,
          fresh.state.LastAnswer settings.errorText keys before token rest
            outcome :=
      State.exists_lastAnswer rfl keys answered
    rcases found with ⟨before, token, rest, outcome, answer⟩
    have typed : reached.expression ≠ [] := answer.shows.ne_nil visible
    refine ⟨typed, ⟨before, token, rest, outcome, answer⟩, ?_⟩
    intro next
    exact
      ⟨State.pressed_of_keepsAnswer settings.errorText answered,
        State.pressed_of_not_keepsAnswer settings.errorText typed⟩
  · intro without token
    exact State.pressed_justEvaluated_iff settings.errorText without

/-- A failed equals key, then a change of sign, an unknown key and equals again. -/
theorem just_evaluated_shows_last_answer_after_idle_keys :
    let settings : Settings := {}
    let keys : List Text := [['8'], ['÷'], ['0'], ['='], ['±'], ['z'], ['=']]
    let reached : State :=
      (({ settings := settings } : Session).pressAll keys).1.state
    settings.errorText ≠ [] ∧
      reached.justEvaluated = true ∧
        reached.expression = "Error" ∧
          (∃ before token rest outcome,
            ({} : State).LastAnswer settings.errorText keys before token rest
              outcome) ∧
            (reached.pressed ['←'] settings.errorText).1.justEvaluated =
              false := by
  intro settings keys reached
  have visible : settings.errorText ≠ [] := by decide
  have answered : reached.justEvaluated = true := by decide +kernel
  rcases (just_evaluated_shows_last_answer visible keys).1 answered with
    ⟨_, lastAnswer, next⟩
  refine ⟨visible, answered, ?_, lastAnswer, (next ['←']).2 ?_⟩
  · decide +kernel
  · decide

end PocketCalc
