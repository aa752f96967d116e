import PocketCalc.Proofs.Expression.Joining
import PocketCalc.Proofs.Keypad.TrailingNumber

/-!
# A change of sign negates the last operand

The digits and points at the end of an expression are its last operand if an
operand begins where they do.  Then the text of the opposite number is an
operand in the same place, and reading the expression again finds the same
operators and the same numbers but for the last one, which has the other sign.
A zero comes back without sign.

Elsewhere a change of sign replaces no more than these digits and points, and
without a number at the end it does nothing.
-/

namespace PocketCalc

namespace State

section EndsIn

variable
  {state : State}
  {before run : Text}
  {value : Binary64}
  (ends : state.EndsIn before run value)

include ends

/-- The digits and points at the end are a literal without sign. -/
theorem EndsIn.isUnsigned : Literal.IsUnsigned run := by
  have noSign :
      ∀ character ∈ run.head?, isNumberCharacter character = true :=
    fun character first =>
      ends.characters character (List.mem_of_mem_head? first)
  have isOperand : Literal.IsOperand run := by
    rw [Literal.isOperand_iff]
    exact ⟨fun plus => absurd (noSign '+' plus) (by decide), _, ends.read⟩
  rcases isOperand with isUnsigned | ⟨_, rfl, _⟩
  · exact isUnsigned
  · exact absurd (noSign '-' rfl) (by decide)

theorem EndsIn.sanitize_expression :
    sanitize state.expression = sanitize before ++ run := by
  rw [ends.split, sanitize_append,
    sanitize_of_joined (joined_numberCharacters ends.characters [])]

end EndsIn

end State

/-- The other sign makes a zero of a zero only, and it is shown without sign. -/
theorem Binary64.unsignedZero_neg (value : Binary64) :
    value.neg.unsignedZero =
      if value.isZero then zero false else value.neg := by
  cases value <;> rfl

theorem Binary64.isFinite_neg (value : Binary64) :
    value.neg.isFinite = value.isFinite := by
  cases value <;> rfl

namespace State

/-- Where an operand begins, the number at the end is read with the other sign. -/
theorem EndsIn.exists_tokenize_toggled
    {state : State}
    {before run : Text}
    {value : Binary64}
    {stream : TokenStream}
    (ends : state.EndsIn before run value)
    (finite : value.isFinite = true)
    (start : AtOperandStart before)
    (tokenized : tokenize (sanitize state.expression) = .ok stream) :
    ∃ others,
      stream.numbers = others ++ [value] ∧
        tokenize (sanitize (before ++ value.neg.display)) =
          .ok
            { stream with
              numbers :=
                others ++ [if value.isZero then .zero false else value.neg] } := by
  rw [← Binary64.isFinite_neg] at finite
  have isOperand := Binary64.isOperand_display finite
  have shown := Binary64.ofLiteral?_display finite
  rw [Binary64.unsignedZero_neg] at shown
  rw [ends.sanitize_expression] at tokenized
  rw [sanitize_append, sanitize_of_joined (joined_of_isOperand isOperand).1]
  exact
    exists_tokenize_replaced start (.inl ends.isUnsigned) ends.read isOperand shown
      tokenized

/-- Nothing changes without digits at the end of an expression that is no answer. -/
theorem toggleSign_of_nothing
    {state : State}
    (nothing :
      state.expression = [] ∨
        state.justEvaluated = true ∨
          trailingNumber? state.expression = none ∨
            trailingNumber? state.expression = some ['.']) :
    state.toggleSign.1 = state := by
  rcases state.toggleSign_cases with
    ⟨same, _⟩ | ⟨before, run, value, ends⟩
  · exact same
  · exfalso
    rcases nothing with empty | answered | noRun | point
    · exact ends.not_idle (Or.inl empty)
    · exact ends.not_idle (Or.inr answered)
    · rw [ends.trailing] at noRun
      cases noRun
    · rw [ends.trailing] at point
      cases point
      have read := ends.read
      rw [ofLiteral?_point] at read
      cases read

end State

/--
One change of sign negates exactly the last operand.  If the number at the end
of an expression that is no answer stands where an operand begins, the text in
front of it stays, and reading the expression again gives the same operators
and the same numbers but for the last one, which has the other sign, or none if
it is zero.  In every state the flag and the history stay, and nothing but the
number at the end is replaced; nothing at all changes without an expression, on
an answer, without digits or points at the end, or with only a point there.
-/
theorem toggleSign_negates_last_operand (state : State) :
    (∀ before run value stream,
      state.justEvaluated = false →
        state.expression = before ++ run →
          trailingNumber? state.expression = some run →
            Binary64.ofLiteral? run = some value →
              value.isFinite = true →
                AtOperandStart before →
                  tokenize (sanitize state.expression) = .ok stream →
                    ∃ text toggled others,
                      state.toggleSign.1 =
                          { state with expression := before ++ text } ∧
                        tokenize (sanitize (before ++ text)) = .ok toggled ∧
                          toggled.operators = stream.operators ∧
                          stream.numbers = others ++ [value] ∧
                          toggled.numbers =
                            others ++
                              [if value.isZero then .zero false
                                else value.neg]) ∧
      (state.toggleSign.1 = state ∨
        ∃ before run text,
          state.expression = before ++ run ∧
            trailingNumber? state.expression = some run ∧
              state.toggleSign.1 =
                { state with expression := before ++ text }) ∧
        ((state.expression = [] ∨
            state.justEvaluated = true ∨
              trailingNumber? state.expression = none ∨
                trailingNumber? state.expression = some ['.']) →
          state.toggleSign.1 = state) := by
  refine ⟨?_, ?_, State.toggleSign_of_nothing⟩
  · intro before run value stream fresh split trailing read finite start
      tokenized
    have ends : state.EndsIn before run value := ⟨fresh, split, trailing, read⟩
    rcases ends.exists_tokenize_toggled finite start tokenized with
      ⟨others, numbers, toggled⟩
    exact
      ⟨value.neg.display, _, others, ends.toggleSign_eq, toggled, rfl, numbers,
        rfl⟩
  · rcases state.toggleSign_cases with
      ⟨same, _⟩ | ⟨before, run, value, ends⟩
    · exact Or.inl same
    · right
      exact ⟨before, run, _, ends.split, ends.trailing, ends.toggleSign_eq⟩

/-- Leading zeros and a trailing point are not kept: 12÷007. becomes 12÷-7. -/
theorem toggleSign_negates_seven_behind_division :
    let state : State := { expression := "12÷007." }
    let seven : Binary64 := .ofDecimal false ⟨7, 0⟩
    trailingNumber? state.expression = some "007." ∧
      seven.isFinite = true ∧
        AtOperandStart "12÷" ∧
          ∃ stream text toggled others,
            tokenize (sanitize state.expression) = .ok stream ∧
              state.toggleSign.1 =
                  { state with expression := "12÷" ++ text } ∧
                tokenize (sanitize ("12÷" ++ text)) = .ok toggled ∧
                  toggled.operators = stream.operators ∧
                  stream.numbers = others ++ [seven] ∧
                  toggled.numbers = others ++ [seven.neg] := by
  intro state seven
  have trailing : trailingNumber? state.expression = some "007." := rfl
  have finite : seven.isFinite = true := by decide +kernel
  have start : AtOperandStart "12÷" :=
    (atOperandStart_concat_iff ['1', '2'] '÷').mpr ⟨⟨.divide, rfl⟩, rfl⟩
  have readable :
      (tokenize (sanitize state.expression)).toOption ≠ none := by
    decide +kernel
  cases tokenized : tokenize (sanitize state.expression) with
  | error fault =>
      rw [tokenized] at readable
      exact absurd rfl readable
  | ok stream =>
      rcases
          (toggleSign_negates_last_operand state).1 "12÷" "007." seven stream
            rfl rfl trailing rfl finite start tokenized with
        ⟨text, toggled, others, changed, read, operators, numbers, negated⟩
      have nonzero : seven.isZero = false := by decide +kernel
      rw [nonzero, if_neg Bool.false_ne_true] at negated
      exact
        ⟨trailing, finite, start, stream, text, toggled, others, rfl, changed,
          read, operators, numbers, negated⟩

end PocketCalc
