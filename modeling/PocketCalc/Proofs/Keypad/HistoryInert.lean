import PocketCalc.Proofs.Keypad.KeyEffect

/-!
# The history has no influence

A key reads the expression of a state and its flag, never its history.  What
follows for one history follows for all of them, with the same calculations put
in front.  Two runs from states that show the same therefore show the same for
ever, and they add the same calculations.

There are two ways to begin anew: the clear key, and a number key directly
after an answer.  Both lead to a state that differs from a fresh one in its
history only, so nothing of the old expression or of the text for errors is
left over.
-/

namespace PocketCalc

namespace State

/-- The state with another history. -/
def withHistory (state : State) (history : History) : State :=
  { state with history := history }

/-- The states differ at most in their histories. -/
structure SameScreen (left right : State) : Prop where
  expression : left.expression = right.expression
  justEvaluated : left.justEvaluated = right.justEvaluated

section Screens

variable {state left right : State}

theorem SameScreen.display (same : left.SameScreen right) :
    left.display = right.display := by
  simp only [State.display, same.expression]

theorem SameScreen.eq_withHistory (same : left.SameScreen right) :
    left = right.withHistory left.history := by
  rcases same with ⟨sameExpression, sameFlag⟩
  rw [withHistory, ← sameExpression, ← sameFlag]

theorem withHistory_self (state : State) :
    state.withHistory state.history = state :=
  rfl

theorem withHistory_sameScreen (state : State) (first second : History) :
    (state.withHistory first).SameScreen (state.withHistory second) :=
  ⟨rfl, rfl⟩

theorem backspace_withHistory (state : State) (history : History) :
    (state.withHistory history).backspace =
      state.backspace.withHistory history := by
  by_cases empty : state.expression = []
  · simp [backspace, withHistory, empty]
  · simp [backspace, withHistory, empty]

theorem toggleSign_withHistory (state : State) (history : History) :
    (state.withHistory history).toggleSign =
      (state.toggleSign.1.withHistory history, state.toggleSign.2) := by
  by_cases nothing : state.expression = [] ∨ state.justEvaluated = true
  · simp [toggleSign, withHistory, nothing]
  · cases trailing : trailingNumber? state.expression with
    | none => simp [toggleSign, withHistory, nothing, trailing]
    | some run =>
        cases value : Binary64.ofLiteral? run with
        | none => simp [toggleSign, withHistory, nothing, trailing, value]
        | some number =>
            simp [toggleSign, withHistory, nothing, trailing, value]

end Screens

end State

/-! ## One key and many -/

/-- A key does the same to the states that differ in their histories only. -/
theorem KeyEffect.exists_withHistory
    {errorText token : Text}
    {state : State}
    {following : State × List Notice}
    (effect : KeyEffect errorText token state following) :
    ∃ (next : State) (new : History) (notices : List Notice),
      ∀ history,
        (state.withHistory history).pressed token errorText =
          (next.withHistory (new ++ history), notices) := by
  cases effect with
  | @recorded number notices entry means typed fresh evaluated expression result =>
      refine
        ⟨{ expression := number.display, justEvaluated := true },
          [⟨state.expression, number.display, typed, number.display_ne_nil⟩],
          notices ++ [.evaluated state.expression number.display], ?_⟩
      intro history
      apply State.pressed_equals_value errorText means
      · exact fresh
      · exact evaluated
  | @failed cause notices means typed fresh evaluated =>
      refine
        ⟨{ expression := errorText, justEvaluated := true }, [],
          notices ++ [.notEvaluated state.expression cause], ?_⟩
      intro history
      apply State.pressed_equals_failure errorText means
      · exact typed
      · exact fresh
      · exact evaluated
  | idle means nothing =>
      refine ⟨state, [], [], ?_⟩
      intro history
      exact State.pressed_equals_of_idle errorText means nothing
  | cleared means =>
      refine ⟨{}, [], [], ?_⟩
      intro history
      exact State.pressed_editing errorText means rfl
  | shortened means =>
      refine ⟨state.backspace, [], [], ?_⟩
      intro history
      rw [State.pressed_editing errorText means rfl,
        State.backspace_withHistory, List.nil_append]
  | toggled means =>
      refine ⟨state.toggleSign.1, [], state.toggleSign.2, ?_⟩
      intro history
      rw [State.pressed_editing errorText means rfl,
        State.toggleSign_withHistory, List.nil_append]
  | begun number answered =>
      refine ⟨{ expression := token }, [], [], ?_⟩
      intro history
      exact State.pressed_number_of_answered errorText number answered
  | continued typed goesOn =>
      refine ⟨{ expression := state.expression ++ token }, [], [], ?_⟩
      intro history
      exact State.pressed_typed errorText typed goesOn
  | unknown noControl untyped =>
      refine ⟨state, [], [.unknownKey token], ?_⟩
      intro history
      exact State.pressed_unknown errorText noControl untyped

namespace State

/-- A run does the same to the states that differ in their histories only. -/
theorem exists_pressedAll_withHistory
    (state : State)
    (errorText : Text)
    (keys : List Text) :
    ∃ (last : State) (new : History) (notices : List Notice),
      ∀ history,
        (state.withHistory history).pressedAll errorText keys =
          (last.withHistory (new ++ history), notices) := by
  induction keys generalizing state with
  | nil => exact ⟨state, [], [], fun _ => rfl⟩
  | cons token rest ih =>
      rcases (keyEffect_pressed state token errorText).exists_withHistory with
        ⟨next, new, notices, pressed⟩
      rcases ih next with ⟨last, newer, more, pressedAll⟩
      refine ⟨last, newer ++ new, notices ++ more, ?_⟩
      intro history
      simp [State.pressedAll, pressed, pressedAll]

/--
The runs of two states show the same after each of the keys, and add the same
calculations in front of their histories.
-/
structure RunsAlike
    (errorText : Text)
    (keys : List Text)
    (left right : State) : Prop where
  shows :
    ∀ before, before <+: keys →
      (left.pressedAll errorText before).1.display =
          (right.pressedAll errorText before).1.display ∧
        (left.pressedAll errorText before).1.justEvaluated =
          (right.pressedAll errorText before).1.justEvaluated
  adds :
    ∃ new : History,
      (left.pressedAll errorText keys).1.history = new ++ left.history ∧
        (right.pressedAll errorText keys).1.history = new ++ right.history

theorem SameScreen.runsAlike
    {left right : State}
    (same : left.SameScreen right)
    (errorText : Text)
    (keys : List Text) :
    RunsAlike errorText keys left right := by
  constructor
  case shows =>
    intro before _
    rcases exists_pressedAll_withHistory right errorText before with
      ⟨last, new, notices, pressed⟩
    have alike :
        (left.pressedAll errorText before).1.SameScreen
          (right.pressedAll errorText before).1 := by
      rw [same.eq_withHistory, pressed, ← right.withHistory_self, pressed]
      exact last.withHistory_sameScreen _ _
    exact ⟨alike.display, alike.justEvaluated⟩
  case adds =>
    rcases exists_pressedAll_withHistory right errorText keys with
      ⟨last, new, notices, pressed⟩
    refine ⟨new, ?_, ?_⟩
    · rw [same.eq_withHistory, pressed]
      rfl
    · rw [← right.withHistory_self, pressed]
      rfl

end State

/-! ## Beginning anew -/

/--
A session shows for the keys what another one shows, and puts the history of
that one before its own.
-/
structure Session.Repeats
    (session other : Session)
    (keys : List Text) : Prop where
  shows :
    ∀ before, before <+: keys →
      (session.pressAll before).1.display = (other.pressAll before).1.display ∧
        (session.pressAll before).1.state.justEvaluated =
          (other.pressAll before).1.state.justEvaluated
  history :
    (session.pressAll keys).1.state.history =
      (other.pressAll keys).1.state.history ++ session.state.history

/-- A session repeats one that has recorded nothing and is else in its state. -/
theorem Session.repeats_of_withHistory
    {session other : Session}
    {old : History}
    (sameSettings : session.settings = other.settings)
    (same : session.state = other.state.withHistory old)
    (unrecorded : other.state.history = [])
    (keys : List Text) :
    session.Repeats other keys := by
  have sameScreen : session.state.SameScreen other.state := by
    rw [same]
    exact ⟨rfl, rfl⟩
  have alike := sameScreen.runsAlike other.settings.errorText keys
  constructor
  case shows =>
    intro before inside
    simp only [pressAll, display, sameSettings]
    exact alike.shows before inside
  case history =>
    rcases alike.adds with ⟨new, left, right⟩
    simp only [pressAll, sameSettings, left, right, unrecorded,
      List.append_nil]

namespace State

variable
  {state : State}
  {token : Text}
  (errorText : Text)

/-- A cleared state differs from a fresh one in its history only. -/
theorem pressed_clear_eq
    (means : Control.ofToken? token = some .clear) :
    (state.pressed token errorText).1 =
      ({} : State).withHistory state.history := by
  rw [pressed_editing errorText means rfl]
  rfl

/-- A number key is the new expression after an answer and in a fresh state. -/
theorem pressed_number_eq
    (number : Key.isNumber token = true)
    (begins : state.justEvaluated = true ∨ state.expression = []) :
    (state.pressed token errorText).1 =
      ({ expression := token } : State).withHistory state.history := by
  cases answered : state.justEvaluated with
  | true =>
      rw [pressed_number_of_answered errorText number answered]
      rfl
  | false =>
      have empty : state.expression = [] := by
        simpa [answered] using begins
      have typed := Key.isTyped_of_isNumber number
      have goesOn :
          state.justEvaluated = true → Key.isNumber token = false := by
        simp [answered]
      rw [pressed_typed errorText typed goesOn, empty]
      rfl

end State

/--
The history has no influence.  Two runs of the same keys from states that differ
in their histories only show the same after each key and add the same
calculations.  So when a run of any length has been cleared, or a number key
follows its answer, the keys after it show what they show in a fresh session,
and the history of that session comes before the old one.
-/
theorem history_has_no_influence (settings : Settings) (keys : List Text) :
    (∀ left right : State,
        left.SameScreen right →
          State.RunsAlike settings.errorText keys left right) ∧
      ∀ (start : State) (earlier : List Text),
        let fresh : Session := { settings := settings }
        let reached : Session :=
          (({ settings := settings, state := start } : Session).pressAll
            earlier).1
        (∀ token,
            Control.ofToken? token = some .clear →
              (reached.press token).1.Repeats fresh keys ∧
                (reached.press token).1.state.history =
                  reached.state.history) ∧
          ∀ token,
            Key.isNumber token = true →
              reached.state.justEvaluated = true →
                (reached.press token).1.Repeats (fresh.press token).1 keys ∧
                  (reached.press token).1.state.history =
                    reached.state.history := by
  constructor
  · intro left right same
    exact same.runsAlike settings.errorText keys
  · intro start earlier fresh reached
    constructor
    · intro token means
      have cleared :
          (reached.press token).1.state =
            fresh.state.withHistory reached.state.history :=
        State.pressed_clear_eq settings.errorText means
      constructor
      · apply Session.repeats_of_withHistory
        · rfl
        · exact cleared
        · rfl
      · rw [cleared]
        rfl
    · intro token number answered
      have begun :
          (reached.press token).1.state =
            ({ expression := token } : State).withHistory
              reached.state.history :=
        State.pressed_number_eq settings.errorText number (Or.inl answered)
      have freshlyBegun :
          (fresh.press token).1.state = { expression := token } :=
        State.pressed_number_eq settings.errorText number (Or.inr rfl)
      constructor
      · apply Session.repeats_of_withHistory
        · rfl
        · rw [freshlyBegun]
          exact begun
        · rw [freshlyBegun]
      · rw [begun]
        rfl

/-- After a failure and an answer a calculation is what it is in a fresh session. -/
theorem history_has_no_influence_after_two_equals :
    let settings : Settings := {}
    let keys : List Text := [['×'], ['2'], ['=']]
    let fresh : Session := { settings := settings }
    let reached : Session :=
      (fresh.pressAll [['8'], ['÷'], ['0'], ['='], ['7'], ['=']]).1
    reached.state.justEvaluated = true ∧
      (reached.press ['4']).1.Repeats (fresh.press ['4']).1 keys ∧
        ((reached.press ['4']).1.pressAll keys).1.historyLines =
          ([("4×2 = 8" : Text), ("7 = 7" : Text)] : List Text) := by
  intro settings keys fresh reached
  rcases history_has_no_influence settings keys with ⟨_, anew⟩
  rcases anew {} [['8'], ['÷'], ['0'], ['='], ['7'], ['=']] with
    ⟨_, numberAfterAnswer⟩
  refine ⟨?_, (numberAfterAnswer ['4'] rfl ?_).1, ?_⟩
  · decide +kernel
  · decide +kernel
  · decide +kernel

end PocketCalc
