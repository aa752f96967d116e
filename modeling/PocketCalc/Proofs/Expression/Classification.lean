import PocketCalc.Expression.Evaluate
import PocketCalc.Proofs.Expression.Tokenization

/-!
# Which outcome an evaluation has

A complete reading stands for a chain of operations: a first number, and
operators each with the number after it.  A chain runs from left to right.
Nothing but a zero to divide by or an infinite dividend of a remainder stops
it, and the first place where that happens decides how it fails.

All other failures are found before any operation is applied.  An expression
without operands has a value, and one whose reading is not complete is
malformed, whatever its complete parts would come to.
-/

namespace PocketCalc

/-- Whether a number is one of the two infinities. -/
def Binary64.isInfinite : Binary64 → Bool
  | .infinite _ => true
  | _ => false

namespace Operator

/-- The kind of failure that an operation on two numbers stops with, if any. -/
def stop? : Operator → Binary64 → Binary64 → Option FailureKind
  | divide, _, operand =>
      if operand.isZero then some .divisionByZero else none
  | remainder, running, operand =>
      if running.isInfinite ∧ operand.isZero = false ∧ operand ≠ .nan then
        some .malformedExpression
      else
        none
  | _, _, _ => none

/-- The result of an operation, no number where it has none. -/
def result (operator : Operator) (left right : Binary64) : Binary64 :=
  match operator.apply left right with
  | .ok value => value
  | .error _ => .nan

theorem result_remainder_zero
    {operand : Binary64}
    (zero : operand.isZero = true)
    (running : Binary64) :
    remainder.result running operand = .nan := by
  simp [result, apply, Binary64.remainder, zero]

theorem divides_symbol (operator : Operator) :
    divides [operator.symbol] = decide (operator = divide) := by
  cases operator <;> decide

/-- Where the remainder is said to stop it fails, and elsewhere it does not. -/
theorem remainder_cases (running operand : Binary64) :
    (remainder.stop? running operand = some .malformedExpression ∧
        running.remainder operand = .error .infiniteDividend) ∨
      (remainder.stop? running operand = none ∧
        running.remainder operand = .ok (remainder.result running operand)) := by
  cases zero : operand.isZero with
  | true =>
      right
      refine ⟨by simp [stop?, zero], ?_⟩
      rw [result_remainder_zero zero]
      simp [Binary64.remainder, zero]
  | false =>
      cases running <;> cases operand <;>
        simp [stop?, result, apply, Binary64.remainder, Binary64.isInfinite,
          zero]

end Operator

/-- A first number, and operators each with the number after it. -/
structure OperatorChain where
  first : Binary64
  rest : List (Operator × Binary64)

namespace OperatorChain

/-- The value that operators without precedence come to. -/
def value (chain : OperatorChain) : Binary64 :=
  chain.rest.foldl
    (fun running (operator, operand) => operator.result running operand)
    chain.first

/-- No operation stops the chain. -/
def Unstopped (chain : OperatorChain) : Prop :=
  ∀ before operator operand after,
    chain.rest = before ++ (operator, operand) :: after →
      operator.stop? (value ⟨chain.first, before⟩) operand = none

/-- The first operation that stops the chain stops it with a kind. -/
def StopsWith (chain : OperatorChain) (kind : FailureKind) : Prop :=
  ∃ before operator operand after,
    chain.rest = before ++ (operator, operand) :: after ∧
      Unstopped ⟨chain.first, before⟩ ∧
        operator.stop? (value ⟨chain.first, before⟩) operand = some kind

theorem value_cons
    (first operand : Binary64)
    (operator : Operator)
    (rest : List (Operator × Binary64)) :
    value ⟨first, (operator, operand) :: rest⟩ =
      value ⟨operator.result first operand, rest⟩ :=
  rfl

theorem unstopped_nil (first : Binary64) : Unstopped ⟨first, []⟩ := by
  intro before operator operand after split
  cases before <;> cases split

theorem unstopped_cons_iff
    (first operand : Binary64)
    (operator : Operator)
    (rest : List (Operator × Binary64)) :
    Unstopped ⟨first, (operator, operand) :: rest⟩ ↔
      operator.stop? first operand = none ∧
        Unstopped ⟨operator.result first operand, rest⟩ := by
  constructor
  · intro unstopped
    refine ⟨unstopped [] operator operand rest rfl, ?_⟩
    intro before following number after split
    have later :=
      unstopped ((operator, operand) :: before) following number after
        (congrArg ((operator, operand) :: ·) split)
    exact later
  · rintro ⟨start, unstopped⟩ before following number after split
    cases before with
    | nil =>
        cases split
        exact start
    | cons pair before =>
        cases split
        exact unstopped before following number after rfl

theorem stopsWith_cons
    {first operand : Binary64}
    {operator : Operator}
    {rest : List (Operator × Binary64)}
    {kind : FailureKind}
    (free : operator.stop? first operand = none)
    (stops : StopsWith ⟨operator.result first operand, rest⟩ kind) :
    StopsWith ⟨first, (operator, operand) :: rest⟩ kind := by
  rcases stops with ⟨before, following, number, after, rfl, unstopped, stop⟩
  refine
    ⟨(operator, operand) :: before, following, number, after, rfl, ?_, stop⟩
  exact (unstopped_cons_iff _ _ _ _).mpr ⟨free, unstopped⟩

/-- A chain comes to its end or stops with some kind of failure. -/
theorem unstopped_or_stopsWith (chain : OperatorChain) :
    chain.Unstopped ∨ ∃ kind, chain.StopsWith kind := by
  rcases chain with ⟨first, rest⟩
  induction rest generalizing first with
  | nil => exact Or.inl (unstopped_nil first)
  | cons pair rest ih =>
      rcases pair with ⟨operator, operand⟩
      cases start : operator.stop? first operand with
      | some kind =>
          exact
            Or.inr
              ⟨kind, [], operator, operand, rest, rfl, unstopped_nil first,
                start⟩
      | none =>
          rcases ih (operator.result first operand) with
            unstopped | ⟨kind, stops⟩
          · exact Or.inl ((unstopped_cons_iff _ _ _ _).mpr ⟨start, unstopped⟩)
          · exact Or.inr ⟨kind, stopsWith_cons start stops⟩

/-- Symbols and numbers as a token stream pairs them. -/
def pairs (rest : List (Operator × Binary64)) : List (Text × Binary64) :=
  rest.map fun (operator, operand) => ([operator.symbol], operand)

end OperatorChain

/-! ## Reducing -/

namespace TokenStream

open OperatorChain

theorem reduceFrom_of_stop
    {running operand : Binary64}
    {operator : Operator}
    {kind : FailureKind}
    (stop : operator.stop? running operand = some kind)
    (rest : List (Text × Binary64)) :
    ∃ cause,
      reduceFrom running (([operator.symbol], operand) :: rest) =
          .ok (.failure cause) ∧
        cause.kind = kind := by
  rw [reduceFrom, Operator.divides_symbol, Operator.ofSymbol?_symbol]
  cases operator with
  | add => cases stop
  | subtract => cases stop
  | multiply => cases stop
  | divide =>
      cases zero : operand.isZero with
      | false => simp [Operator.stop?, zero] at stop
      | true =>
          simp only [Operator.stop?, zero, if_true] at stop
          cases stop
          exact ⟨_, rfl, rfl⟩
  | remainder =>
      rcases Operator.remainder_cases running operand with
        ⟨malformed, failed⟩ | ⟨free, _⟩
      · rw [malformed] at stop
        cases stop
        refine ⟨.arithmetic .infiniteDividend, ?_, rfl⟩
        simp only [Operator.apply, failed]
        rfl
      · rw [free] at stop
        cases stop

theorem reduceFrom_of_free
    {running operand : Binary64}
    {operator : Operator}
    (free : operator.stop? running operand = none)
    (rest : List (Text × Binary64)) :
    reduceFrom running (([operator.symbol], operand) :: rest) =
      reduceFrom (operator.result running operand) rest := by
  rw [reduceFrom, Operator.divides_symbol, Operator.ofSymbol?_symbol]
  cases operator with
  | add => rfl
  | subtract => rfl
  | multiply => rfl
  | divide =>
      cases zero : operand.isZero with
      | false => rfl
      | true => simp [Operator.stop?, zero] at free
  | remainder =>
      rcases Operator.remainder_cases running operand with
        ⟨malformed, _⟩ | ⟨_, succeeded⟩
      · rw [malformed] at free
        cases free
      · simp only [Operator.apply, succeeded]
        rfl

/-- An unstopped beginning is replaced by its value. -/
theorem reduceFrom_append
    {first : Binary64}
    {before : List (Operator × Binary64)}
    (unstopped : Unstopped ⟨first, before⟩)
    (rest : List (Text × Binary64)) :
    reduceFrom first (pairs before ++ rest) =
      reduceFrom (value ⟨first, before⟩) rest := by
  induction before generalizing first with
  | nil => rfl
  | cons pair before ih =>
      rcases pair with ⟨operator, operand⟩
      rcases (unstopped_cons_iff _ _ _ _).mp unstopped with ⟨free, others⟩
      rw [value_cons, ← ih others, ← reduceFrom_of_free free]
      rfl

theorem reduceFrom_of_unstopped
    {chain : OperatorChain}
    (unstopped : chain.Unstopped) :
    reduceFrom chain.first (pairs chain.rest) =
      .ok (.value chain.value) := by
  have reduced := reduceFrom_append unstopped []
  rw [List.append_nil] at reduced
  exact reduced

theorem reduceFrom_of_stopsWith
    {chain : OperatorChain}
    {kind : FailureKind}
    (stops : chain.StopsWith kind) :
    ∃ cause,
      reduceFrom chain.first (pairs chain.rest) =
          .ok (.failure cause) ∧
        cause.kind = kind := by
  rcases stops with ⟨before, operator, operand, after, split, unstopped, stop⟩
  rcases reduceFrom_of_stop stop (pairs after) with ⟨cause, failed, kinds⟩
  refine ⟨cause, ?_, kinds⟩
  rw [split, ← failed, ← reduceFrom_append unstopped]
  exact congrArg _ List.map_append

end TokenStream

/-! ## Readings without operands -/

namespace Reading

/-- A row of symbols has a reading without any number. -/
theorem exists_of_symbols
    {expression : Text}
    (symbols : ∀ character ∈ expression, Operator.isSymbol character = true) :
    ∃ reading : Reading,
      reading.Admitted ∧
        reading.text = expression ∧
          reading.first = [] ∧ reading.literals = [] := by
  induction expression with
  | nil =>
      refine ⟨⟨[], []⟩, ⟨?_, trivial⟩, rfl, rfl, rfl⟩
      intro operand member
      exact Or.inl (List.mem_singleton.mp member)
  | cons character expression ih =>
      rw [List.forall_mem_cons] at symbols
      rcases Operator.exists_symbol_eq symbols.1 with ⟨operator, rfl⟩
      rcases ih symbols.2 with ⟨following, admitted, rfl, empty, none⟩
      refine
        ⟨⟨[], (operator, following.first) :: following.rest⟩,
          (admitted_cons_iff _ _ _ _).mpr ⟨Or.inl rfl, ?_, admitted⟩,
          text_cons _ _ _ _, rfl, ?_⟩
      · intro _ _ character head
        have member := List.mem_of_mem_head? head
        rcases Operator.exists_symbol_eq (symbols.2 _ member) with ⟨next, rfl⟩
        exact next.symbol_plain.1
      · rw [literals_cons, none]
        rfl

/-- Without any number there are only symbols. -/
theorem symbols_of_literals_nil
    {reading : Reading}
    (none : reading.literals = []) :
    ∀ character ∈ reading.text, Operator.isSymbol character = true := by
  rcases reading with ⟨first, rest⟩
  induction rest generalizing first with
  | nil =>
      have empty : first = [] := by
        simpa [literals, operands] using none
      intro character member
      rw [text_single, empty] at member
      cases member
  | cons pair rest ih =>
      rcases pair with ⟨operator, operand⟩
      have split := literals_cons first operator ⟨operand, rest⟩
      rw [none, eq_comm, List.append_eq_nil_iff] at split
      have empty : first = [] := by
        simpa using split.1
      intro character member
      rw [text_cons, empty, List.nil_append, List.mem_cons] at member
      rcases member with rfl | later
      · exact operator.isSymbol_symbol
      · exact ih operand split.2 character later

/-- The chain that a complete reading stands for. -/
def Means (reading : Reading) (chain : OperatorChain) : Prop :=
  Binary64.ofLiteral? reading.first = some chain.first ∧
    (reading.rest.map fun (operator, operand) =>
        (operator, Binary64.ofLiteral? operand)) =
      chain.rest.map fun (operator, number) => (operator, some number)

theorem Complete.exists_means
    {reading : Reading}
    (complete : reading.Complete) :
    ∃ chain, reading.Means chain := by
  rcases reading with ⟨first, rest⟩
  induction rest generalizing first with
  | nil =>
      have isOperand := complete first List.mem_cons_self
      rcases ((Literal.isOperand_iff first).mp isOperand).2 with ⟨number, read⟩
      exact ⟨⟨number, []⟩, read, rfl⟩
  | cons pair rest ih =>
      rcases pair with ⟨operator, operand⟩
      rcases (complete_cons_iff _ _ _ _).mp complete with ⟨isOperand, following⟩
      rcases ((Literal.isOperand_iff first).mp isOperand).2 with ⟨number, read⟩
      rcases ih operand following with ⟨later, readOperand, readRest⟩
      refine ⟨⟨number, (operator, later.first) :: later.rest⟩, read, ?_⟩
      exact congrArg₂ List.cons (congrArg (operator, ·) readOperand) readRest

/-- The numbers and symbols of a chain are those of its reading. -/
theorem Means.denotes
    {reading : Reading}
    {chain : OperatorChain}
    (means : reading.Means chain)
    (complete : reading.Complete) :
    reading.Denotes (chain.first :: chain.rest.map Prod.snd) ∧
      reading.symbols =
        chain.rest.map fun (operator, _) => [operator.symbol] := by
  constructor
  · have numbers := congrArg (List.map Prod.snd) means.2
    rw [List.map_map, List.map_map] at numbers
    rw [Denotes, complete.literals_eq, operands, List.map_cons, List.map_cons,
      means.1, List.map_map, List.map_map]
    exact congrArg (some chain.first :: ·) numbers
  · have operators :=
      congrArg (List.map fun pair => [pair.1.symbol]) means.2
    rw [List.map_map, List.map_map] at operators
    exact operators

end Reading

/-! ## Outcomes -/

theorem evaluate_of_tokenize
    {expression : Text}
    {stream : TokenStream}
    {outcome : Outcome}
    (tokenized : tokenize (sanitize expression) = .ok stream)
    (reduced : stream.reduce = .ok outcome) :
    evaluate expression = .ok (outcome, [.tokens expression stream]) := by
  rw [evaluate, tokenized]
  dsimp only
  rw [reduced]

theorem evaluate_of_symbols
    {expression : Text}
    (symbols :
      ∀ character ∈ sanitize expression,
        Operator.isSymbol character = true) :
    ∃ notices,
      evaluate expression = .ok (.value (.zero false), notices) := by
  rcases Reading.exists_of_symbols symbols with
    ⟨reading, admitted, text, _, none⟩
  have denotes : reading.Denotes [] := by
    rw [Reading.Denotes, none]
    rfl
  rcases tokenize_text admitted denotes with ⟨stream, tokenized, numbers, _⟩
  rw [text] at tokenized
  have reduced : stream.reduce = .ok (.value (.zero false)) := by
    rw [TokenStream.reduce, numbers]
  exact ⟨_, evaluate_of_tokenize tokenized reduced⟩

/-- Without a complete reading some operand is missing or is no number. -/
theorem evaluate_of_incomplete
    {expression : Text}
    (someNumber :
      ¬∀ character ∈ sanitize expression, Operator.isSymbol character = true)
    (incomplete :
      ¬∃ reading : Reading,
        reading.Complete ∧ reading.text = sanitize expression) :
    ∃ cause notices,
      evaluate expression = .ok (.failure cause, notices) ∧
        cause.kind = .malformedExpression := by
  cases tokenized : tokenize (sanitize expression) with
  | error fault =>
      refine ⟨.unreadable fault, [], ?_, rfl⟩
      rw [evaluate, tokenized]
  | ok stream =>
      rcases exists_reading_of_tokenize tokenized with
        ⟨reading, admitted, text, denotes, operators⟩
      have reduced :
          stream.reduce =
            .ok (.failure
              (.unbalanced stream.operators.length stream.numbers.length)) := by
        rw [TokenStream.reduce]
        cases numbers : stream.numbers with
        | nil =>
            rw [numbers, Reading.Denotes, List.map_nil,
              List.map_eq_nil_iff] at denotes
            refine absurd ?_ someNumber
            rw [← text]
            exact Reading.symbols_of_literals_nil denotes
        | cons first others =>
            have unbalanced : stream.isBalanced = false := by
              rw [TokenStream.isBalanced, decide_eq_false_iff_not, operators,
                denotes.length_eq_iff]
              intro nonempty
              refine incomplete ⟨reading, ?_, text⟩
              intro operand member
              exact
                (admitted.1 operand member).resolve_left
                  (nonempty operand member)
            dsimp only
            rw [unbalanced, if_neg Bool.false_ne_true]
      exact ⟨_, _, evaluate_of_tokenize tokenized reduced, rfl⟩

/-- A complete reading is evaluated by running its chain. -/
theorem evaluate_of_complete
    {expression : Text}
    {reading : Reading}
    {chain : OperatorChain}
    {outcome : Outcome}
    (complete : reading.Complete)
    (text : reading.text = sanitize expression)
    (means : reading.Means chain)
    (reduced :
      TokenStream.reduceFrom chain.first
          (OperatorChain.pairs chain.rest) =
        .ok outcome) :
    ∃ notices, evaluate expression = .ok (outcome, notices) := by
  rcases means.denotes complete with ⟨denotes, symbols⟩
  rcases tokenize_text complete.admitted denotes with
    ⟨stream, tokenized, numbers, operators⟩
  rw [text] at tokenized
  have balanced : stream.isBalanced = true := by
    rw [TokenStream.isBalanced, decide_eq_true_eq, numbers, operators, symbols]
    simp
  have paired :
      stream.operators.zip (chain.rest.map Prod.snd) =
        OperatorChain.pairs chain.rest := by
    rw [operators, symbols, List.zip_map']
    rfl
  have whole : stream.reduce = .ok outcome := by
    rw [TokenStream.reduce, numbers]
    dsimp only
    rw [balanced, if_pos rfl, paired, reduced]
  exact ⟨_, evaluate_of_tokenize tokenized whole⟩

/-! ## Causes of failure -/

/-- Operations fail for a zero to divide by or for an infinite dividend. -/
theorem TokenStream.cause_of_reduceFrom
    {running : Binary64}
    {pairs : List (Text × Binary64)}
    {cause : FailureCause}
    (failed : reduceFrom running pairs = .ok (.failure cause)) :
    (∃ value symbol, cause = .divisionByZero value symbol) ∨
      cause = .arithmetic .infiniteDividend := by
  induction pairs generalizing running with
  | nil => cases failed
  | cons pair rest ih =>
      rcases pair with ⟨symbol, operand⟩
      rw [reduceFrom] at failed
      split at failed
      · cases failed
        exact Or.inl ⟨running, symbol, rfl⟩
      · split at failed
        · cases failed
        · split at failed
          · exact ih failed
          · rename_i fault _
            cases fault
            cases failed
            exact Or.inr rfl

/-- An evaluation fails for one of four causes. -/
theorem cause_of_evaluate
    {expression : Text}
    {cause : FailureCause}
    {notices : List Notice}
    (failed : evaluate expression = .ok (.failure cause, notices)) :
    (∃ fault,
        tokenize (sanitize expression) = .error fault ∧
          cause = .unreadable fault) ∨
      (∃ operators numbers, cause = .unbalanced operators numbers) ∨
        (∃ value symbol, cause = .divisionByZero value symbol) ∨
          cause = .arithmetic .infiniteDividend := by
  cases tokenized : tokenize (sanitize expression) with
  | error fault =>
      rw [evaluate, tokenized] at failed
      cases failed
      exact Or.inl ⟨fault, rfl, rfl⟩
  | ok stream =>
      cases reduced : stream.reduce with
      | error unknown =>
          rw [evaluate, tokenized] at failed
          dsimp only at failed
          rw [reduced] at failed
          cases failed
      | ok outcome =>
          rw [evaluate_of_tokenize tokenized reduced] at failed
          cases failed
          rw [TokenStream.reduce] at reduced
          split at reduced
          · cases reduced
          · split at reduced
            · exact
                Or.inr (Or.inr (TokenStream.cause_of_reduceFrom reduced))
            · cases reduced
              exact Or.inr (Or.inl ⟨_, _, rfl⟩)

/--
Every outcome of an evaluation.  Symbols alone have the value zero.  An
expression with something else and without a complete reading is malformed.  A
complete reading has the value of its chain if no operation stops it, and
otherwise fails as the first operation that does.  A remainder by zero stops
nothing and is no number.  A division by zero is reported for complete readings
only.
-/
theorem evaluate_classified (expression : Text) :
    ((∀ character ∈ sanitize expression,
        Operator.isSymbol character = true) →
      ∃ notices,
        evaluate expression = .ok (.value (.zero false), notices)) ∧
      ((¬∀ character ∈ sanitize expression,
          Operator.isSymbol character = true) →
        (¬∃ reading : Reading,
          reading.Complete ∧ reading.text = sanitize expression) →
        ∃ cause notices,
          evaluate expression = .ok (.failure cause, notices) ∧
            cause.kind = .malformedExpression) ∧
      (∀ reading : Reading,
        reading.Complete →
          reading.text = sanitize expression →
            (∃ chain, reading.Means chain) ∧
              ∀ chain,
                reading.Means chain →
                  (chain.Unstopped ∨ ∃ kind, chain.StopsWith kind) ∧
                  (chain.Unstopped →
                    ∃ notices,
                      evaluate expression =
                        .ok (.value chain.value, notices)) ∧
                  (∀ kind,
                    chain.StopsWith kind →
                      ∃ cause notices,
                        evaluate expression = .ok (.failure cause, notices) ∧
                          cause.kind = kind)) ∧
      (∀ running operand : Binary64,
        operand.isZero = true →
          Operator.remainder.stop? running operand = none ∧
            Operator.remainder.result running operand = .nan) ∧
      (∀ cause notices,
        evaluate expression = .ok (.failure cause, notices) →
          cause.kind = .divisionByZero →
            ∃ reading : Reading,
              reading.Complete ∧ reading.text = sanitize expression) := by
  refine ⟨evaluate_of_symbols, evaluate_of_incomplete, ?_, ?_, ?_⟩
  · intro reading complete text
    refine ⟨complete.exists_means, fun chain means => ?_⟩
    refine ⟨chain.unstopped_or_stopsWith, ?_, ?_⟩
    · intro unstopped
      exact
        evaluate_of_complete complete text means
          (TokenStream.reduceFrom_of_unstopped unstopped)
    · intro kind stops
      rcases TokenStream.reduceFrom_of_stopsWith stops with
        ⟨cause, reduced, kinds⟩
      rcases evaluate_of_complete complete text means reduced with
        ⟨notices, evaluated⟩
      exact ⟨cause, notices, evaluated, kinds⟩
  · intro running operand zero
    exact
      ⟨by simp [Operator.stop?, zero],
        Operator.result_remainder_zero zero running⟩
  · intro cause notices failed divides
    by_contra incomplete
    by_cases symbols :
        ∀ character ∈ sanitize expression, Operator.isSymbol character = true
    · rcases evaluate_of_symbols symbols with ⟨_, evaluated⟩
      rw [failed] at evaluated
      cases evaluated
    · rcases evaluate_of_incomplete symbols incomplete with
        ⟨malformed, _, evaluated, kind⟩
      rw [failed] at evaluated
      cases evaluated
      rw [divides] at kind
      cases kind

end PocketCalc
