import Mathlib.Data.List.Infix
import PocketCalc.Proofs.Expression.Foreign
import PocketCalc.Proofs.Keypad.Record
import PocketCalc.Proofs.Keypad.TrailingNumber
import PocketCalc.Proofs.Number.ReadBack

/-!
# A failed display never leaks into a calculation

After an equals key that failed the display shows the text for errors, and
after one whose result is not finite it shows a word.  These texts have a
foreign character.  The expression stays spoiled by the beginning of such a text
through typed keys, changes of sign and further equals keys, which fail and
show the text for errors again.  It is freed in three ways only: by clearing,
by deleting the foreign character itself, and by a number key that begins a new
expression.
-/

namespace PocketCalc

/-! ## Displays of numbers that are not finite -/

theorem display_of_not_finite
    {number : Binary64}
    (notFinite : number.isFinite = false) :
    number.display = ['n', 'a', 'n'] ∨
      number.display = ['i', 'n', 'f'] ∨
        number.display = ['-', 'i', 'n', 'f'] := by
  cases number with
  | nan => exact Or.inl rfl
  | infinite negative =>
      cases negative with
      | false => exact Or.inr (Or.inl rfl)
      | true => exact Or.inr (Or.inr rfl)
  | finite negative magnitude => cases notFinite

/-- The display of a number that is not finite has a foreign character. -/
theorem exists_firstForeign_display
    {number : Binary64}
    (notFinite : number.isFinite = false) :
    ∃ place, FirstForeign number.display place := by
  rcases display_of_not_finite notFinite with shown | shown | shown
  · rw [shown]
    exact ⟨0, .of_front rfl⟩
  · rw [shown]
    exact ⟨0, .of_front rfl⟩
  · rw [shown]
    refine ⟨1, rfl, ?_⟩
    intro earlier before
    rw [Nat.lt_one_iff.mp before]
    rfl

theorem Key.isNumberCharacter_of_isNumber
    {token : Text}
    (number : isNumber token = true) :
    ∃ character, token = [character] ∧ isNumberCharacter character = true := by
  rcases exists_numberRow_of_isNumber number with ⟨character, rfl, member⟩
  have characters : numberRow.all isNumberCharacter = true := rfl
  exact ⟨character, rfl, List.all_eq_true.mp characters character member⟩

/-! ## One key on a spoiled expression -/

/--
The keys that free an expression of the beginning of a text: the clear key, a
backspace that deletes the foreign character, and a number key directly after
an equals key.
-/
def State.Frees
    (state : State)
    (token text : Text)
    (place : Nat) : Prop :=
  Control.ofToken? token = some .clear ∨
    (Control.ofToken? token = some .backspace ∧
      state.expression = text.take (place + 1)) ∨
      (Key.isNumber token = true ∧ state.justEvaluated = true)

section OneKey

variable
  {errorText token text other : Text}
  {place otherPlace : Nat}
  {state : State}
  {following : State × List Notice}

theorem State.backspace_expression
    (typed : state.expression ≠ []) :
    state.backspace.expression = state.expression.dropLast := by
  rw [backspace, if_neg typed]

/-- A backspace behind the foreign character leaves what spoils. -/
theorem State.spoils_backspace
    (spoils : Spoils text place state.expression)
    (longer : state.expression ≠ text.take (place + 1)) :
    Spoils text place state.backspace.expression := by
  have shorter :
      (text.take (place + 1)).length < state.expression.length := by
    apply Nat.lt_of_le_of_ne spoils.length_le
    intro same
    exact longer (spoils.eq_of_length same).symm
  have typed : state.expression ≠ [] :=
    List.ne_nil_of_length_pos (Nat.zero_lt_of_lt shorter)
  rw [backspace_expression typed]
  apply
    List.prefix_of_prefix_length_le spoils
      (List.dropLast_prefix state.expression)
  rw [List.length_dropLast]
  exact Nat.le_sub_one_of_lt shorter

theorem State.spoils_toggleSign
    (foreign : foreignAt text place = true)
    (spoils : Spoils text place state.expression) :
    Spoils text place state.toggleSign.1.expression := by
  rcases state.toggleSign_cases with
    ⟨same, _⟩ | ⟨before, run, value, ends⟩
  · rw [same]
    exact spoils
  · rw [ends.toggleSign_eq]
    rw [ends.split] at spoils
    exact
      (spoils.of_append_number foreign ends.characters).append
        value.neg.display

/--
A key keeps what spoils an expression, or shows the text for errors again, or
frees the expression.
-/
theorem KeyEffect.spoils
    (foreign : foreignAt text place = true)
    (spoils : Spoils text place state.expression)
    (effect : KeyEffect errorText token state following) :
    Spoils text place following.1.expression ∨
      following.1.expression = errorText ∨
        state.Frees token text place := by
  cases effect with
  | recorded means typed fresh evaluated expression result =>
      rcases spoils.evaluate_unreadable foreign with ⟨fault, failed⟩
      rw [failed] at evaluated
      cases evaluated
  | failed means typed fresh evaluated => exact Or.inr (Or.inl rfl)
  | idle means nothing => exact Or.inl spoils
  | cleared means => exact Or.inr (Or.inr (Or.inl means))
  | shortened means =>
      by_cases last : state.expression = text.take (place + 1)
      · exact Or.inr (Or.inr (Or.inr (Or.inl ⟨means, last⟩)))
      · exact Or.inl (State.spoils_backspace spoils last)
  | toggled means => exact Or.inl (State.spoils_toggleSign foreign spoils)
  | begun number answered =>
      exact Or.inr (Or.inr (Or.inr (Or.inr ⟨number, answered⟩)))
  | continued typed goesOn => exact Or.inl (spoils.append token)
  | unknown noControl untyped => exact Or.inl spoils

/-- What a key frees is not spoiled by the beginning of any text. -/
theorem State.Frees.not_spoils
    (first : FirstForeign text place)
    (otherForeign : foreignAt other otherPlace = true)
    (frees : state.Frees token text place)
    (errorText : Text) :
    ¬Spoils other otherPlace (state.pressed token errorText).1.expression := by
  intro spoils
  have inside := spoils.length_lt otherForeign
  have foreign := spoils.foreignAt_expression otherForeign
  rcases frees with means | ⟨means, last⟩ | ⟨number, answered⟩
  · rw [pressed_editing errorText means rfl] at inside
    cases inside
  · rcases exists_take_eq_of_foreignAt first.foreign with ⟨character, taken, _⟩
    have typed : state.expression ≠ [] := by
      rw [last, taken]
      exact List.append_ne_nil_of_right_ne_nil _ (List.cons_ne_nil _ _)
    have shortened :
        (state.pressed token errorText).1.expression = text.take place := by
      rw [pressed_editing errorText means rfl]
      dsimp only
      rw [backspace_expression typed, last, taken, List.dropLast_concat]
    rw [shortened] at inside foreign
    have earlier : otherPlace < place :=
      Nat.lt_of_lt_of_le inside (List.length_take_le _ _)
    rw [← foreignAt_of_begins (List.take_prefix place text) inside,
      first.first otherPlace earlier] at foreign
    cases foreign
  · rcases Key.isNumberCharacter_of_isNumber number with
      ⟨character, rfl, isNumber⟩
    rw [pressed_number_of_answered errorText number answered] at inside foreign
    have here : otherPlace = 0 := Nat.lt_one_iff.mp inside
    subst here
    have alone : isForeign [] character = true := foreign
    have notNumber := not_number_of_foreign alone
    rw [isNumber] at notNumber
    cases notNumber

end OneKey

/-! ## Runs of keys on a spoiled expression -/

namespace State

variable
  {errorText token shown : Text}
  {place errorPlace : Nat}
  {start state : State}

/-- An expression is spoiled by a shown text or by the text for errors. -/
def Spoiled
    (state : State)
    (shown : Text)
    (place : Nat)
    (errorText : Text)
    (errorPlace : Nat) : Prop :=
  Spoils shown place state.expression ∨
    Spoils errorText errorPlace state.expression

theorem Spoiled.evaluate_unreadable
    (shownForeign : foreignAt shown place = true)
    (errorForeign : foreignAt errorText errorPlace = true)
    (spoiled : state.Spoiled shown place errorText errorPlace) :
    ∃ fault,
      evaluate state.expression = .ok (.failure (.unreadable fault), []) := by
  rcases spoiled with spoils | spoils
  · exact spoils.evaluate_unreadable shownForeign
  · exact spoils.evaluate_unreadable errorForeign

/-- No key adds to the history of a spoiled expression. -/
theorem Spoiled.pressed_history
    (shownForeign : foreignAt shown place = true)
    (errorForeign : foreignAt errorText errorPlace = true)
    (spoiled : state.Spoiled shown place errorText errorPlace)
    (token : Text) :
    (state.pressed token errorText).1.history = state.history := by
  rcases (keyEffect_pressed state token errorText).history with
    ⟨entry, completes, _⟩ | ⟨_, kept⟩
  · rcases spoiled.evaluate_unreadable shownForeign errorForeign with
      ⟨fault, failed⟩
    exact absurd ⟨entry, completes⟩ (not_completes_of_failure failed)
  · exact kept

/-- An equals key on a spoiled expression shows the text for errors. -/
theorem Spoiled.pressed_equals
    (shownForeign : foreignAt shown place = true)
    (errorForeign : foreignAt errorText errorPlace = true)
    (spoiled : state.Spoiled shown place errorText errorPlace)
    (means : Control.ofToken? token = some .equals)
    (fresh : state.justEvaluated = false) :
    (state.pressed token errorText).1.expression = errorText := by
  have typed : state.expression ≠ [] := by
    intro empty
    rcases spoiled with spoils | spoils
    · have inside := spoils.length_lt shownForeign
      rw [empty] at inside
      cases inside
    · have inside := spoils.length_lt errorForeign
      rw [empty] at inside
      cases inside
  rcases spoiled.evaluate_unreadable shownForeign errorForeign with
    ⟨fault, failed⟩
  rw [pressed_equals_failure errorText means typed fresh failed]

/-- A key ends the spoiled condition exactly if it frees the expression. -/
theorem Spoiled.not_spoiled_iff
    (shownForeign : FirstForeign shown place)
    (errorForeign : FirstForeign errorText errorPlace)
    (spoiled : state.Spoiled shown place errorText errorPlace)
    (token : Text) :
    ¬(state.pressed token errorText).1.Spoiled shown place errorText
          errorPlace ↔
      state.Frees token shown place ∨
        state.Frees token errorText errorPlace := by
  have effect := keyEffect_pressed state token errorText
  have shownAgain :
      (state.pressed token errorText).1.expression = errorText →
        (state.pressed token errorText).1.Spoiled shown place errorText
          errorPlace := by
    intro same
    right
    rw [same]
    exact List.take_prefix _ _
  constructor
  · intro freed
    rcases spoiled with spoils | spoils
    · rcases effect.spoils shownForeign.foreign spoils with
        still | same | frees
      · exact absurd (Or.inl still) freed
      · exact absurd (shownAgain same) freed
      · exact Or.inl frees
    · rcases effect.spoils errorForeign.foreign spoils with
        still | same | frees
      · exact absurd (Or.inr still) freed
      · exact absurd (shownAgain same) freed
      · exact Or.inr frees
  · rintro (frees | frees) (spoils | spoils)
    · exact
        frees.not_spoils shownForeign shownForeign.foreign errorText spoils
    · exact
        frees.not_spoils shownForeign errorForeign.foreign errorText spoils
    · exact
        frees.not_spoils errorForeign shownForeign.foreign errorText spoils
    · exact
        frees.not_spoils errorForeign errorForeign.foreign errorText spoils

/-- As long as the expression stays spoiled, a run keeps the history. -/
theorem pressedAll_history_of_spoiled
    {keys : List Text}
    (shownForeign : foreignAt shown place = true)
    (errorForeign : foreignAt errorText errorPlace = true)
    (spoiled :
      ∀ earlier,
        earlier <+: keys →
          (start.pressedAll errorText earlier).1.Spoiled shown place errorText
            errorPlace) :
    (start.pressedAll errorText keys).1.history = start.history := by
  induction keys using List.reverseRecOn with
  | nil => rfl
  | append_singleton keys key ih =>
      have before := List.prefix_append keys [key]
      have kept := ih fun earlier begins => spoiled earlier (begins.trans before)
      rw [pressedAll_append, ← kept]
      exact
        (spoiled keys before).pressed_history shownForeign errorForeign key

end State

/--
A failed or not finite display never leaks into a calculation.  The text that
an equals key then shows has a first foreign character.  As long as the
expression is spoiled by its beginning, or by that of the text for errors, the
history stays; every equals key that evaluates finds a malformed expression and
shows the text for errors; and exactly the keys that free the expression end
this condition.
-/
theorem failed_display_spoils_expressions
    {errorText equalsKey : Text}
    {errorPlace : Nat}
    {state : State}
    {outcome : Outcome}
    {notices : List Notice}
    (errorForeign : FirstForeign errorText errorPlace)
    (means : Control.ofToken? equalsKey = some .equals)
    (typed : state.expression ≠ [])
    (fresh : state.justEvaluated = false)
    (evaluated : evaluate state.expression = .ok (outcome, notices))
    (unusable :
      ∀ number, outcome = .value number → number.isFinite = false) :
    let start := (state.pressed equalsKey errorText).1
    let shown := start.expression
    (∀ cause, outcome = .failure cause → shown = errorText) ∧
      (∀ number, outcome = .value number → shown = number.display) ∧
      ∃ place,
        FirstForeign shown place ∧
          start.Spoiled shown place errorText errorPlace ∧
          ∀ keys,
            (∀ earlier,
              earlier <+: keys →
                (start.pressedAll errorText earlier).1.Spoiled shown place
                  errorText errorPlace) →
              let before := (start.pressedAll errorText keys).1
              before.history = start.history ∧
                ∀ token,
                  let after := (before.pressed token errorText).1
                  (Control.ofToken? token = some .equals →
                    before.justEvaluated = false →
                      (∃ cause more,
                        evaluate before.expression =
                            .ok (.failure cause, more) ∧
                          cause.kind = .malformedExpression) ∧
                        after.expression = errorText ∧
                          after.history = before.history) ∧
                    (¬after.Spoiled shown place errorText errorPlace ↔
                      before.Frees token shown place ∨
                        before.Frees token errorText errorPlace) := by
  intro start shown
  have failure : ∀ cause, outcome = .failure cause → shown = errorText := by
    rintro cause rfl
    have pressed :=
      State.pressed_equals_failure errorText means typed fresh evaluated
    exact congrArg (fun next => next.1.expression) pressed
  have value :
      ∀ number, outcome = .value number → shown = number.display := by
    rintro number rfl
    have pressed :=
      State.pressed_equals_value errorText means typed fresh evaluated
    exact congrArg (fun next => next.1.expression) pressed
  have foreign : ∃ place, FirstForeign shown place := by
    cases isOutcome : outcome with
    | failure cause =>
        rw [failure cause isOutcome]
        exact ⟨errorPlace, errorForeign⟩
    | value number =>
        rw [value number isOutcome]
        exact exists_firstForeign_display (unusable number isOutcome)
  rcases foreign with ⟨place, shownForeign⟩
  refine ⟨failure, value, place, shownForeign, ?_, ?_⟩
  · exact Or.inl (List.take_prefix _ _)
  · intro keys whileSpoiled before
    have spoiled := whileSpoiled keys (List.prefix_refl keys)
    refine ⟨?_, ?_⟩
    · exact
        State.pressedAll_history_of_spoiled shownForeign.foreign
          errorForeign.foreign whileSpoiled
    · intro token after
      refine ⟨?_, spoiled.not_spoiled_iff shownForeign errorForeign token⟩
      intro isEquals notAnswered
      rcases
          spoiled.evaluate_unreadable shownForeign.foreign
            errorForeign.foreign with
        ⟨fault, failed⟩
      refine ⟨⟨_, _, failed, rfl⟩, ?_, ?_⟩
      · exact
          spoiled.pressed_equals shownForeign.foreign errorForeign.foreign
            isEquals notAnswered
      · exact
          spoiled.pressed_history shownForeign.foreign errorForeign.foreign
            token

/-- The text for errors that 8÷0 shows spoils the sum with 5 behind it. -/
theorem failed_display_of_eight_over_zero :
    let state : State := { expression := ['8', '÷', '0'] }
    let start := (state.pressed ['='] "Error").1
    let before := (start.pressedAll "Error" [['+'], ['5']]).1
    let after := (before.pressed ['='] "Error").1
    FirstForeign "Error" 0 ∧
      start.expression = ("Error" : Text) ∧
        before.expression = ("Error+5" : Text) ∧
          after.expression = ("Error" : Text) ∧
            after.history = start.history := by
  intro state start before after
  have errorForeign : FirstForeign "Error" 0 := .of_front rfl
  have evaluated :
      ∃ cause notices,
        evaluate state.expression = .ok (.failure cause, notices) :=
    ⟨_, _, rfl⟩
  rcases evaluated with ⟨cause, notices, evaluated⟩
  have failed :
      ∀ number,
        Outcome.failure cause = .value number → number.isFinite = false := by
    intro number isValue
    cases isValue
  rcases
      failed_display_spoils_expressions errorForeign
        (show Control.ofToken? ['='] = some .equals by decide)
        (List.cons_ne_nil _ _) rfl evaluated failed with
    ⟨shown, _, place, _, _, runs⟩
  have typed : before.expression = ("Error+5" : Text) := by decide +kernel
  have spoiled :
      ∀ earlier,
        earlier <+: [['+'], ['5']] →
          (start.pressedAll "Error" earlier).1.Spoiled start.expression place
            "Error" 0 := by
    intro earlier begins
    have begun :
        ∀ earlier ∈ List.inits [['+'], ['5']],
          ['E'] <+: (start.pressedAll "Error" earlier).1.expression := by
      decide +kernel
    exact Or.inr (begun earlier ((List.mem_inits _ _).mpr begins))
  have run := runs [['+'], ['5']] spoiled
  have fresh : before.justEvaluated = false := by decide +kernel
  rcases (run.2 ['=']).1 (by decide) fresh with ⟨_, again, kept⟩
  exact
    ⟨errorForeign, shown cause rfl, typed, again, kept.trans run.1⟩

end PocketCalc
