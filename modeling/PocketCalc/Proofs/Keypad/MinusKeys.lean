import Mathlib.Data.List.Forall2
import PocketCalc.Proofs.Expression.Foreign
import PocketCalc.Proofs.Keypad.KeyEffect
import PocketCalc.Proofs.Keypad.TrailingNumber

/-!
# The two minus keys are interchangeable

One minus key types the ASCII minus and the other its display glyph.  Which of
them is pressed makes a difference to the expression as it is shown, and to
nothing else: an expression is evaluated with its glyphs replaced, the search
for the number at the end stops alike at both, and every other edit goes by
characters.

Two states are read alike when they differ in glyphs only.  Keys that are the
same but for the spelling of the minus keep states read alike, so whole runs of
them do.
-/

namespace PocketCalc

namespace Key

/-- Whether a token is one of the two minus keys. -/
def isMinus (token : Text) : Bool :=
  token = ['-'] || token = ['−']

/-- The keys are the same, or both are minus keys. -/
def Respelled (left right : Text) : Prop :=
  left = right ∨ (isMinus left = true ∧ isMinus right = true)

theorem isMinus_iff {token : Text} :
    isMinus token = true ↔ token = ['-'] ∨ token = ['−'] := by
  rw [isMinus, Bool.or_eq_true, decide_eq_true_eq, decide_eq_true_eq]

namespace Respelled

variable {left right : Text}

/-- What both minus keys have in common is the same for respelled keys. -/
theorem congr
    {Property : Type}
    {property : Text → Property}
    (common : property ['-'] = property ['−'])
    (respelled : Respelled left right) :
    property left = property right := by
  rcases respelled with rfl | ⟨leftMinus, rightMinus⟩
  · rfl
  · rcases isMinus_iff.mp leftMinus with rfl | rfl <;>
      rcases isMinus_iff.mp rightMinus with rfl | rfl
    · rfl
    · exact common
    · exact common.symm
    · rfl

theorem ofToken?_eq (respelled : Respelled left right) :
    Control.ofToken? left = Control.ofToken? right :=
  respelled.congr (by decide)

theorem isNumber_eq (respelled : Respelled left right) :
    isNumber left = isNumber right :=
  respelled.congr (by decide)

theorem isTyped_eq (respelled : Respelled left right) :
    isTyped left = isTyped right :=
  respelled.congr (by decide)

theorem sanitize_eq (respelled : Respelled left right) :
    sanitize left = sanitize right :=
  respelled.congr (by decide)

end Respelled

end Key

/-! ## Glyphs in expressions -/

section Glyphs

variable {left right : Text}

theorem length_eq_of_sanitize_eq (same : sanitize left = sanitize right) :
    left.length = right.length := by
  have lengths := congrArg List.length same
  rw [sanitize, sanitize, List.length_map, List.length_map] at lengths
  exact lengths

theorem eq_nil_iff_of_sanitize_eq (same : sanitize left = sanitize right) :
    left = [] ↔ right = [] := by
  rw [← List.length_eq_zero_iff, length_eq_of_sanitize_eq same,
    List.length_eq_zero_iff]

end Glyphs

/-! ## States that are read alike -/

/-- The calculations have one result, and expressions that differ in glyphs only. -/
structure Calculation.ReadAlike (left right : Calculation) : Prop where
  expression : sanitize left.expression = sanitize right.expression
  result : left.result = right.result

/-- The states differ in the glyphs of their expressions only. -/
structure State.ReadAlike (left right : State) : Prop where
  expression : sanitize left.expression = sanitize right.expression
  justEvaluated : left.justEvaluated = right.justEvaluated
  history : List.Forall₂ Calculation.ReadAlike left.history right.history

namespace State

theorem ReadAlike.refl (state : State) : state.ReadAlike state where
  expression := rfl
  justEvaluated := rfl
  history := List.forall₂_same.mpr fun _ _ => ⟨rfl, rfl⟩

section Alike

variable
  {left right : State}
  (alike : left.ReadAlike right)

include alike

theorem ReadAlike.empty_iff : left.expression = [] ↔ right.expression = [] :=
  eq_nil_iff_of_sanitize_eq alike.expression

theorem ReadAlike.idle_iff :
    left.expression = [] ∨ left.justEvaluated = true ↔
      right.expression = [] ∨ right.justEvaluated = true := by
  rw [alike.empty_iff, alike.justEvaluated]

theorem ReadAlike.display : sanitize left.display = sanitize right.display := by
  rw [State.display, State.display]
  by_cases empty : left.expression = []
  · rw [if_pos empty, if_pos (alike.empty_iff.mp empty)]
  · rw [if_neg empty, if_neg fun other => empty (alike.empty_iff.mpr other)]
    exact alike.expression

theorem ReadAlike.backspace : left.backspace.ReadAlike right.backspace := by
  rw [State.backspace, State.backspace]
  by_cases empty : left.expression = []
  · rw [if_pos empty, if_pos (alike.empty_iff.mp empty)]
    exact alike
  · rw [if_neg empty, if_neg fun other => empty (alike.empty_iff.mpr other)]
    refine ⟨?_, rfl, alike.history⟩
    have same := congrArg List.dropLast alike.expression
    rw [sanitize, sanitize, ← List.map_dropLast, ← List.map_dropLast] at same
    exact same

/-- The sign of the same number is changed, and what stands before is read alike. -/
theorem ReadAlike.toggleSign :
    left.toggleSign.1.ReadAlike right.toggleSign.1 := by
  have sameRun :
      trailingNumber? left.expression = trailingNumber? right.expression := by
    rw [← trailingNumber?_sanitize, alike.expression, trailingNumber?_sanitize]
  have sameLength := length_eq_of_sanitize_eq alike.expression
  rw [State.toggleSign, State.toggleSign]
  by_cases idle : left.expression = [] ∨ left.justEvaluated = true
  · rw [if_pos idle, if_pos (alike.idle_iff.mp idle)]
    exact alike
  · rw [if_neg idle, if_neg fun other => idle (alike.idle_iff.mpr other),
      sameRun]
    cases trailingNumber? right.expression with
    | none => exact alike
    | some run =>
        dsimp only
        cases Binary64.ofLiteral? run with
        | none => exact alike
        | some value =>
            refine ⟨?_, alike.justEvaluated, alike.history⟩
            have before :=
              congrArg (List.take (right.expression.length - run.length))
                alike.expression
            rw [sanitize, sanitize, ← List.map_take, ← List.map_take] at before
            dsimp only
            rw [sameLength, sanitize_append, sanitize_append]
            exact congrArg (· ++ sanitize value.neg.display) before

/-- Respelled keys have the same outcome, if they evaluate. -/
theorem ReadAlike.outcome?_eq
    {token other : Text}
    (respelled : Key.Respelled token other) :
    left.outcome? token = right.outcome? other := by
  by_cases ready :
      Control.ofToken? token = some .equals ∧
        left.expression ≠ [] ∧ left.justEvaluated = false
  · rcases ready with ⟨means, typed, fresh⟩
    rcases evaluate_ok left.expression with ⟨outcome, notices, evaluated⟩
    rcases evaluate_of_sanitize_eq alike.expression evaluated with
      ⟨others, otherEvaluated⟩
    rw [outcome?_of_evaluate means typed fresh evaluated]
    symm
    apply outcome?_of_evaluate
    · rw [← respelled.ofToken?_eq, means]
    · exact fun empty => typed (alike.empty_iff.mpr empty)
    · rw [← alike.justEvaluated, fresh]
    · exact otherEvaluated
  · have otherIdle :
        ¬(Control.ofToken? other = some .equals ∧
          right.expression ≠ [] ∧ right.justEvaluated = false) := by
      rw [← respelled.ofToken?_eq, ← alike.justEvaluated, Ne,
        ← alike.empty_iff]
      exact ready
    rw [outcome?, outcome?, if_neg ready, if_neg otherIdle]

end Alike

end State

/-! ## One key and many -/

/-- Respelled keys keep states read alike. -/
theorem KeyEffect.readAlike
    {errorText token other : Text}
    {left right : State}
    {following : State × List Notice}
    (effect : KeyEffect errorText token left following)
    (alike : left.ReadAlike right)
    (respelled : Key.Respelled token other) :
    following.1.ReadAlike (right.pressed other errorText).1 := by
  have typedToo : left.expression ≠ [] → right.expression ≠ [] :=
    fun typed empty => typed (alike.empty_iff.mpr empty)
  cases effect with
  | @recorded number notices entry means typed fresh evaluated expression result =>
      rw [respelled.ofToken?_eq] at means
      rw [alike.justEvaluated] at fresh
      rcases evaluate_of_sanitize_eq alike.expression evaluated with
        ⟨others, otherEvaluated⟩
      rw [State.pressed_equals_value errorText means (typedToo typed) fresh
        otherEvaluated]
      refine ⟨rfl, rfl, .cons ⟨?_, result⟩ alike.history⟩
      rw [expression]
      exact alike.expression
  | failed means typed fresh evaluated =>
      rw [respelled.ofToken?_eq] at means
      rw [alike.justEvaluated] at fresh
      rcases evaluate_of_sanitize_eq alike.expression evaluated with
        ⟨others, otherEvaluated⟩
      rw [State.pressed_equals_failure errorText means (typedToo typed) fresh
        otherEvaluated]
      exact ⟨rfl, rfl, alike.history⟩
  | idle means nothing =>
      rw [respelled.ofToken?_eq] at means
      rw [State.pressed_equals_of_idle errorText means
        (alike.idle_iff.mp nothing)]
      exact alike
  | cleared means =>
      rw [respelled.ofToken?_eq] at means
      rw [State.pressed_editing errorText means rfl]
      exact ⟨rfl, rfl, alike.history⟩
  | shortened means =>
      rw [respelled.ofToken?_eq] at means
      rw [State.pressed_editing errorText means rfl]
      exact alike.backspace
  | toggled means =>
      rw [respelled.ofToken?_eq] at means
      rw [State.pressed_editing errorText means rfl]
      exact alike.toggleSign
  | begun number answered =>
      rw [respelled.isNumber_eq] at number
      rw [alike.justEvaluated] at answered
      rw [State.pressed_number_of_answered errorText number answered]
      exact ⟨respelled.sanitize_eq, rfl, alike.history⟩
  | continued typed goesOn =>
      rw [respelled.isTyped_eq] at typed
      rw [alike.justEvaluated, respelled.isNumber_eq] at goesOn
      rw [State.pressed_typed errorText typed goesOn]
      refine ⟨?_, rfl, alike.history⟩
      rw [sanitize_append, sanitize_append, alike.expression,
        respelled.sanitize_eq]
  | unknown noControl untyped =>
      rw [respelled.ofToken?_eq] at noControl
      rw [respelled.isTyped_eq] at untyped
      rw [State.pressed_unknown errorText noControl untyped]
      exact alike

theorem State.ReadAlike.pressedAll
    {left right : State}
    {keys others : List Text}
    (alike : left.ReadAlike right)
    (errorText : Text)
    (respelled : List.Forall₂ Key.Respelled keys others) :
    (left.pressedAll errorText keys).1.ReadAlike
      (right.pressedAll errorText others).1 := by
  induction respelled generalizing left right with
  | nil => exact alike
  | @cons key other keys others same _ ih =>
      rw [pressedAll_cons, pressedAll_cons]
      apply ih
      exact (keyEffect_pressed left key errorText).readAlike alike same

/--
The two minus keys are interchangeable.  Two runs from one state whose keys
differ in the spelling of minus keys only have the same flag after each key,
displays that differ in glyphs only, and histories of one length whose entries
have the same results and expressions that differ in glyphs only.  Each equals
key fails in both runs or in neither, with one kind and one message.
-/
theorem minus_keys_interchangeable
    (start : State)
    (errorText : Text)
    {keys others : List Text}
    (respelled : List.Forall₂ Key.Respelled keys others) :
    let after (pressed : List Text) : State :=
      (start.pressedAll errorText pressed).1
    (∀ count,
        (after (keys.take count)).justEvaluated =
            (after (others.take count)).justEvaluated ∧
          sanitize (after (keys.take count)).display =
              sanitize (after (others.take count)).display ∧
            (after (keys.take count)).history.length =
                (after (others.take count)).history.length ∧
              List.Forall₂ Calculation.ReadAlike
                (after (keys.take count)).history
                (after (others.take count)).history) ∧
      ∀ place key other,
        keys[place]? = some key →
          others[place]? = some other →
            (after (keys.take place)).failure? key =
              (after (others.take place)).failure? other := by
  intro after
  have alike (count : Nat) :
      (after (keys.take count)).ReadAlike (after (others.take count)) :=
    (State.ReadAlike.refl start).pressedAll errorText
      (List.forall₂_take count respelled)
  constructor
  · intro count
    exact
      ⟨(alike count).justEvaluated, (alike count).display,
        (alike count).history.length_eq, (alike count).history⟩
  · intro place key other pressed otherPressed
    have same : Key.Respelled key other := by
      rcases List.getElem?_eq_some_iff.mp pressed with ⟨inside, rfl⟩
      rcases List.getElem?_eq_some_iff.mp otherPressed with
        ⟨otherInside, rfl⟩
      exact (List.forall₂_iff_get.mp respelled).2 place inside otherInside
    rw [State.failure?, State.failure?, (alike place).outcome?_eq same]

/-- A division by zero and a failed display, with both minus keys and with one. -/
theorem minus_keys_interchangeable_after_division_by_zero :
    let keys : List Text := [['8'], ['÷'], ['-'], ['0'], ['='], ['−'], ['5']]
    let others : List Text := [['8'], ['÷'], ['−'], ['0'], ['='], ['-'], ['5']]
    let after (pressed : List Text) : State :=
      (({} : State).pressedAll "Error" pressed).1
    List.Forall₂ Key.Respelled keys others ∧
      (after keys).display = "Error−5" ∧
        (after others).display = "Error-5" ∧
          sanitize (after keys).display = sanitize (after others).display ∧
            (after (keys.take 4)).failure? ['='] =
              (after (others.take 4)).failure? ['='] := by
  intro keys others after
  have respelled : List.Forall₂ Key.Respelled keys others := by
    have minus : Key.Respelled ['-'] ['−'] := Or.inr ⟨rfl, rfl⟩
    have glyph : Key.Respelled ['−'] ['-'] := Or.inr ⟨rfl, rfl⟩
    exact
      .cons (.inl rfl) (.cons (.inl rfl) (.cons minus (.cons (.inl rfl)
        (.cons (.inl rfl) (.cons glyph (.cons (.inl rfl) .nil))))))
  rcases minus_keys_interchangeable {} "Error" respelled with
    ⟨shown, failures⟩
  refine ⟨respelled, ?_, ?_, (shown 7).2.1, failures 4 _ _ rfl rfl⟩
  · decide +kernel
  · decide +kernel

end PocketCalc
