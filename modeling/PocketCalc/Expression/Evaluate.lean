import PocketCalc.Notice

/-!
# Evaluating an expression

Operators have no precedence: each one is applied to the running value and the
operand after it, from left to right.  An expression without operands has the
value zero, whatever operators it has.

The reduction of a token stream can meet a symbol that has no operation; that
is a fault of the stream and not a failure of the evaluation.  The streams that
scanning makes have no such symbol, so evaluating a text always has an outcome.
-/

namespace PocketCalc

/-- A symbol that a token stream may carry but that has no operation. -/
structure UnknownSymbol where
  symbol : Text
deriving DecidableEq

namespace TokenStream

/-- Apply operators and their operands to a running value, one by one. -/
def reduceFrom (running : Binary64) :
    List (Text × Binary64) → Except UnknownSymbol Outcome
  | [] => .ok (.value running)
  | (symbol, operand) :: rest =>
      if Operator.divides symbol && operand.isZero then
        .ok (.failure (.divisionByZero running symbol))
      else
        match Operator.ofSymbol? symbol with
        | none => .error ⟨symbol⟩
        | some operator =>
            match operator.apply running operand with
            | .ok value => reduceFrom value rest
            | .error fault => .ok (.failure (.arithmetic fault))

/-- The outcome of a token stream. -/
def reduce (stream : TokenStream) : Except UnknownSymbol Outcome :=
  match stream.numbers with
  | [] => .ok (.value (.zero false))
  | first :: operands =>
      if stream.isBalanced then
        reduceFrom first (stream.operators.zip operands)
      else
        .ok (.failure
          (.unbalanced stream.operators.length stream.numbers.length))

theorem reduceFrom_ok
    {running : Binary64}
    {pairs : List (Text × Binary64)}
    (known : ∀ pair ∈ pairs,
      ∃ operator : Operator, pair.1 = [operator.symbol]) :
    ∃ outcome, reduceFrom running pairs = .ok outcome := by
  induction pairs generalizing running with
  | nil => exact ⟨_, rfl⟩
  | cons pair rest ih =>
      obtain ⟨symbol, operand⟩ := pair
      obtain ⟨operator, equal⟩ := known (symbol, operand) List.mem_cons_self
      dsimp only at equal
      subst equal
      unfold reduceFrom
      split
      · exact ⟨_, rfl⟩
      · rw [Operator.ofSymbol?_symbol]
        dsimp only
        split
        · exact ih fun pair member =>
            known pair (List.mem_cons_of_mem _ member)
        · exact ⟨_, rfl⟩

theorem reduce_ok
    {stream : TokenStream}
    (known : ∀ symbol ∈ stream.operators,
      ∃ operator : Operator, symbol = [operator.symbol]) :
    ∃ outcome, stream.reduce = .ok outcome := by
  unfold reduce
  split
  · exact ⟨_, rfl⟩
  · split
    · refine reduceFrom_ok fun pair member => ?_
      exact known pair.1 (List.of_mem_zip member).1
    · exact ⟨_, rfl⟩

end TokenStream

/--
Evaluate an expression as the display shows it, and report the tokens if it
could be read.
-/
def evaluate (expression : Text) :
    Except UnknownSymbol (Outcome × List Notice) :=
  match tokenize (sanitize expression) with
  | .error fault => .ok (.failure (.unreadable fault), [])
  | .ok stream =>
      match stream.reduce with
      | .ok outcome => .ok (outcome, [.tokens expression stream])
      | .error unknown => .error unknown

/-- Every text has an outcome. -/
theorem evaluate_ok (expression : Text) :
    ∃ outcome notices, evaluate expression = .ok (outcome, notices) := by
  unfold evaluate
  split
  · exact ⟨_, _, rfl⟩
  · rename_i stream tokenized
    obtain ⟨outcome, reduced⟩ :=
      TokenStream.reduce_ok (tokenize_symbols tokenized)
    rw [reduced]
    exact ⟨_, _, rfl⟩

end PocketCalc
