import PocketCalc.Proofs.Expression.Joining

/-!
# One more operation

Reducing goes from left to right and looks back at nothing but the running
value.  So operations that are joined from two lists are reduced by reducing
the first list and going on with the second from its value, and a failure in
the first list is the failure of both.

For expressions this means that an operator and one more literal behind a digit
or point do one more operation on the value of what stands before them.  If
that has no value, it fails as before.
-/

namespace PocketCalc

/-- The outcome of a single operation on a running value. -/
def Operator.outcome
    (operator : Operator)
    (running operand : Binary64) :
    Outcome :=
  if operator = divide ∧ operand.isZero = true then
    .failure (.divisionByZero running [operator.symbol])
  else
    match operator.apply running operand with
    | .ok value => .value value
    | .error fault => .failure (.arithmetic fault)

/--
The outcome of an expression that goes on with one more operation, by the
outcome that it had before.
-/
def Outcome.GoesOnTo
    (operator : Operator)
    (operand : Binary64) :
    Outcome → Outcome → Prop
  | .value running, after => after = operator.outcome running operand
  | .failure (.divisionByZero running symbol), after =>
      after = .failure (.divisionByZero running symbol)
  | .failure (.arithmetic fault), after =>
      after = .failure (.arithmetic fault)
  | .failure _, after =>
      ∃ cause, after = .failure cause ∧ cause.kind = .malformedExpression

theorem Outcome.GoesOnTo.of_failure
    (operator : Operator)
    (operand : Binary64)
    (cause : FailureCause) :
    GoesOnTo operator operand (.failure cause) (.failure cause) := by
  cases cause with
  | unreadable fault => exact ⟨_, rfl, rfl⟩
  | unbalanced operators numbers => exact ⟨_, rfl, rfl⟩
  | divisionByZero running symbol => rfl
  | arithmetic fault => rfl

/-! ## Reducing in two parts -/

namespace TokenStream

theorem reduceFrom_single
    (running operand : Binary64)
    (operator : Operator) :
    reduceFrom running [([operator.symbol], operand)] =
      .ok (operator.outcome running operand) := by
  rw [reduceFrom, Operator.divides_symbol, Operator.ofSymbol?_symbol,
    Operator.outcome]
  by_cases byZero : operator = .divide ∧ operand.isZero = true
  · rw [if_pos byZero, byZero.1, byZero.2]
    rfl
  · rw [if_neg byZero, if_neg (by simpa using byZero)]
    dsimp only
    cases operator.apply running operand <;> rfl

/-- What a reduction comes to that has rest operations left after an outcome. -/
def resume (rest : List (Text × Binary64)) :
    Outcome → Except UnknownSymbol Outcome
  | .value running => reduceFrom running rest
  | .failure cause => .ok (.failure cause)

/-- The second part goes on from the value of the first, or fails as it does. -/
theorem reduceFrom_append_eq_bind
    (running : Binary64)
    (left right : List (Text × Binary64)) :
    reduceFrom running (left ++ right) =
      (reduceFrom running left).bind (resume right) := by
  induction left generalizing running with
  | nil => rfl
  | cons pair left ih =>
      rcases pair with ⟨symbol, operand⟩
      rw [List.cons_append, reduceFrom, reduceFrom]
      split
      · rfl
      · split
        · rfl
        · split
          · exact ih _
          · rfl

/-- A stream with one more operation goes on from the outcome without it. -/
theorem exists_reduce_goesOnTo
    {stream longer : TokenStream}
    {operator : Operator}
    {operand : Binary64}
    {outcome : Outcome}
    (someNumber : stream.numbers ≠ [])
    (numbers : longer.numbers = stream.numbers ++ [operand])
    (operators : longer.operators = stream.operators ++ [[operator.symbol]])
    (reduced : stream.reduce = .ok outcome) :
    ∃ after,
      longer.reduce = .ok after ∧ outcome.GoesOnTo operator operand after := by
  have sameBalance : longer.isBalanced = stream.isBalanced := by
    simp [isBalanced, numbers, operators]
  cases split : stream.numbers with
  | nil => exact absurd split someNumber
  | cons first operands =>
      rw [reduce, split] at reduced
      dsimp only at reduced
      rw [reduce, numbers, split, List.cons_append]
      dsimp only
      rw [sameBalance]
      cases balanced : stream.isBalanced with
      | false =>
          rw [balanced, if_neg Bool.false_ne_true] at reduced
          cases reduced
          rw [if_neg Bool.false_ne_true]
          exact ⟨_, rfl, _, rfl, rfl⟩
      | true =>
          have lengths : stream.operators.length = operands.length := by
            rw [isBalanced, decide_eq_true_eq, split,
              List.length_cons] at balanced
            exact Nat.succ.inj balanced
          rw [balanced, if_pos rfl] at reduced
          rw [if_pos rfl, operators, List.zip_append lengths,
            reduceFrom_append_eq_bind, reduced]
          cases outcome with
          | value running =>
              exact ⟨_, reduceFrom_single running operand operator, rfl⟩
          | failure cause => exact ⟨_, rfl, .of_failure operator operand cause⟩

end TokenStream

/-! ## Expressions in two parts -/

/-- The streams of both parts make the stream of the joined expression. -/
theorem exists_tokenize_joined
    {before after : Text}
    {left right : TokenStream}
    (ends : EndsInNumber before)
    (operator : Operator)
    (leftTokenized : tokenize before = .ok left)
    (rightTokenized : tokenize after = .ok right) :
    ∃ whole,
      tokenize (before ++ operator.symbol :: after) = .ok whole ∧
        whole.numbers = left.numbers ++ right.numbers ∧
          whole.operators =
            left.operators ++ [operator.symbol] :: right.operators := by
  have accepted :
      ∀ symbol ∈ left.operators ++ [operator.symbol] :: right.operators,
        Operator.accepts symbol = true := by
    rw [List.forall_mem_append, List.forall_mem_cons]
    refine ⟨left.accepted, ?_, right.accepted⟩
    cases operator <;> decide
  refine
    ⟨⟨left.numbers ++ right.numbers, _, accepted⟩, ?_, rfl, rfl⟩
  exact
    (tokenize_joined_iff ends operator after _).mpr
      ⟨left, right, leftTokenized, rightTokenized, rfl, rfl⟩

/-- An expression that ends in a digit or point has a number. -/
theorem numbers_ne_nil_of_endsInNumber
    {expression : Text}
    {stream : TokenStream}
    (ends : EndsInNumber expression)
    (tokenized : tokenize expression = .ok stream) :
    stream.numbers ≠ [] := by
  intro none
  rcases exists_reading_of_tokenize tokenized with
    ⟨reading, _, rfl, denotes, _⟩
  rw [none, Reading.Denotes, List.map_nil, List.map_eq_nil_iff] at denotes
  rcases ends.exists_not_symbol with ⟨character, member, notSymbol⟩
  rw [Reading.symbols_of_literals_nil denotes character member] at notSymbol
  cases notSymbol

/-- An operator and a literal do one more operation on what stands before. -/
theorem exists_evaluate_goesOnTo
    {before literal : Text}
    {operand : Binary64}
    (ends : EndsInNumber before)
    (operator : Operator)
    (isOperand : Literal.IsOperand literal)
    (read : Binary64.ofLiteral? literal = some operand) :
    ∃ outcome notices after others,
      evaluate before = .ok (outcome, notices) ∧
        evaluate (before ++ operator.symbol :: literal) =
            .ok (after, others) ∧
          outcome.GoesOnTo operator operand after := by
  have plain :
      sanitize (before ++ operator.symbol :: literal) =
        sanitize before ++ operator.symbol :: literal := by
    rw [sanitize_append, sanitize_cons, operator.plainCharacter_symbol,
      sanitize_of_joined (joined_of_isOperand isOperand).1]
  rw [← endsInNumber_sanitize_iff] at ends
  cases tokenized : tokenize (sanitize before) with
  | error fault =>
      cases refused :
          tokenize (sanitize (before ++ operator.symbol :: literal)) with
      | error other =>
          refine ⟨.failure (.unreadable fault), [], .failure (.unreadable other),
            [], ?_, ?_, _, rfl, rfl⟩
          · rw [evaluate, tokenized]
          · rw [evaluate, refused]
      | ok whole =>
          rw [plain, tokenize_joined_iff ends] at refused
          rcases refused with ⟨left, _, leftTokenized, _⟩
          rw [tokenized] at leftTokenized
          cases leftTokenized
  | ok left =>
      have single :=
        (tokenize_literal_iff isOperand read
          ⟨[operand], [], List.forall_mem_nil _⟩).mpr ⟨rfl, rfl⟩
      rcases exists_tokenize_joined ends operator tokenized single with
        ⟨whole, wholeTokenized, numbers, operators⟩
      rw [← plain] at wholeTokenized
      rcases TokenStream.reduce_ok (tokenize_symbols tokenized) with
        ⟨outcome, reduced⟩
      rcases
          TokenStream.exists_reduce_goesOnTo
            (numbers_ne_nil_of_endsInNumber ends tokenized)
            numbers operators reduced with
        ⟨after, wholeReduced, goesOn⟩
      exact
        ⟨outcome, _, after, _, evaluate_of_tokenize tokenized reduced,
          evaluate_of_tokenize wholeTokenized wholeReduced, goesOn⟩

/--
Evaluation goes on from the left.  Behind a digit or point an operator joins
two expressions: the whole is tokenized exactly if both parts are, into the
numbers and operators of the first part, the operator, and those of the second.
If the second part is a literal, the whole does one more operation on the value
of the first part; a division by zero or a fault of an operation there stays
the outcome, and a malformed first part makes the whole malformed.
-/
theorem evaluation_goes_on_from_left
    {before : Text}
    (ends : EndsInNumber before)
    (operator : Operator) :
    (∀ after,
      (∃ whole, tokenize (before ++ operator.symbol :: after) = .ok whole) ↔
        (∃ left, tokenize before = .ok left) ∧
          ∃ right, tokenize after = .ok right) ∧
      (∀ after left right,
        tokenize before = .ok left →
          tokenize after = .ok right →
            ∃ whole,
              tokenize (before ++ operator.symbol :: after) = .ok whole ∧
                whole.numbers = left.numbers ++ right.numbers ∧
                  whole.operators =
                    left.operators ++
                      [operator.symbol] :: right.operators) ∧
        (∀ literal operand,
          Literal.IsOperand literal →
            Binary64.ofLiteral? literal = some operand →
              ∃ outcome notices whole others,
                evaluate before = .ok (outcome, notices) ∧
                  evaluate (before ++ operator.symbol :: literal) =
                      .ok (whole, others) ∧
                    outcome.GoesOnTo operator operand whole) := by
  refine ⟨?_, ?_, ?_⟩
  · intro after
    constructor
    · rintro ⟨whole, tokenized⟩
      rcases (tokenize_joined_iff ends operator after whole).mp tokenized with
        ⟨left, right, leftTokenized, rightTokenized, _⟩
      exact ⟨⟨left, leftTokenized⟩, right, rightTokenized⟩
    · rintro ⟨⟨left, leftTokenized⟩, right, rightTokenized⟩
      rcases
          exists_tokenize_joined ends operator leftTokenized rightTokenized with
        ⟨whole, tokenized, _⟩
      exact ⟨whole, tokenized⟩
  · intro after left right leftTokenized rightTokenized
    exact exists_tokenize_joined ends operator leftTokenized rightTokenized
  · intro literal operand isOperand read
    exact exists_evaluate_goesOnTo ends operator isOperand read

/-- The remainder by -3 goes on from the quotient of 6 and -1.5. -/
theorem evaluation_goes_on_from_left_after_quotient :
    let before : Text := "6÷-1.5"
    let literal : Text := "-3"
    EndsInNumber before ∧
      Literal.IsOperand literal ∧
        ∃ notices,
          evaluate (before ++ '%' :: literal) =
            .ok (.value (.ofDecimal true ⟨1, 0⟩), notices) := by
  intro before literal
  have ends : EndsInNumber before := rfl
  have read : Binary64.ofLiteral? literal = some (.ofDecimal true ⟨3, 0⟩) := by
    decide +kernel
  have isOperand : Literal.IsOperand literal :=
    (Literal.isOperand_iff literal).mpr ⟨by decide, _, read⟩
  rcases
      (evaluation_goes_on_from_left ends .remainder).2.2 literal _ isOperand
        read with
    ⟨outcome, notices, whole, others, evaluated, wholeEvaluated, goesOn⟩
  have quotient :
      (evaluate before).toOption.map Prod.fst =
        some (.value (.ofDecimal true ⟨4, 0⟩)) := by
    decide +kernel
  have remainder :
      Operator.remainder.outcome (.ofDecimal true ⟨4, 0⟩)
          (.ofDecimal true ⟨3, 0⟩) =
        .value (.ofDecimal true ⟨1, 0⟩) := by
    decide +kernel
  rw [evaluated] at quotient
  cases quotient
  refine ⟨ends, isOperand, others, ?_⟩
  rw [← remainder, ← goesOn]
  exact wholeEvaluated

end PocketCalc
