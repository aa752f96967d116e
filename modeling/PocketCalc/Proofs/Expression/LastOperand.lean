import PocketCalc.Proofs.Expression.Joining

/-!
# The last operand of an expression

An expression that comes to a value has a last operand.  In front of it stands
nothing, or an expression with a value of its own and an operator, and only this
value goes on.  So any other operand can stand in the same place, and what is
read as one operand there but is none makes the expression malformed.

A symbol that stands behind no digit or point, and before none, leaves the
operand in front of it without an end.  No text behind it mends that.
-/

namespace PocketCalc

/-- Evaluating an expression fails because the expression is malformed. -/
def Malformed (expression : Text) : Prop :=
  ∃ cause notices,
    evaluate expression = .ok (.failure cause, notices) ∧
      cause.kind = .malformedExpression

instance (expression : Text) : Decidable (Malformed expression) :=
  match evaluated : evaluate expression with
  | .ok (.failure cause, notices) =>
      decidable_of_iff (cause.kind = .malformedExpression)
        ⟨fun kind => ⟨cause, notices, evaluated, kind⟩, by
          rintro ⟨_, _, failed, kind⟩
          rw [evaluated] at failed
          cases failed
          exact kind⟩
  | .ok (.value _, _) =>
      isFalse fun ⟨_, _, failed, _⟩ => by
        rw [evaluated] at failed
        cases failed
  | .error _ =>
      isFalse fun ⟨_, _, failed, _⟩ => by
        rw [evaluated] at failed
        cases failed

theorem exists_notices_of_evaluate
    {expression : Text}
    {outcome : Outcome}
    (evaluated :
      (evaluate expression).toOption.map (·.1) = some outcome) :
    ∃ notices, evaluate expression = .ok (outcome, notices) := by
  rcases evaluate_ok expression with ⟨reached, notices, evaluation⟩
  rw [evaluation] at evaluated
  cases evaluated
  exact ⟨notices, evaluation⟩

theorem exists_numbers_of_tokenize
    {expression : Text}
    (numbers :
      (tokenize expression).toOption.any (!·.numbers.isEmpty) = true) :
    ∃ stream, tokenize expression = .ok stream ∧ stream.numbers ≠ [] := by
  cases tokenized : tokenize expression with
  | error fault =>
      rw [tokenized] at numbers
      cases numbers
  | ok stream =>
      rw [tokenized] at numbers
      refine ⟨stream, rfl, ?_⟩
      simpa [Except.toOption] using numbers

theorem not_malformed_of_evaluate
    {expression : Text}
    {outcome : Outcome}
    {notices : List Notice}
    (evaluated : evaluate expression = .ok (outcome, notices))
    (other :
      ∀ cause, outcome = .failure cause →
        cause.kind ≠ .malformedExpression) :
    ¬Malformed expression := by
  rintro ⟨cause, others, failed, kind⟩
  rw [evaluated] at failed
  cases failed
  exact other cause rfl kind

/-! ## Stranded symbols -/

/-- A symbol between no digits or points leaves an operand without an end. -/
theorem not_complete_of_stranded
    {kept front rest : Text}
    {operator : Operator}
    {next : Char}
    {reading : Reading}
    (behind : ¬EndsInNumber (kept ++ front))
    (before : isNumberCharacter next = false)
    (wasCut :
      cut kept (front ++ operator.symbol :: next :: rest) = some reading) :
    ¬reading.Complete := by
  induction front generalizing kept reading with
  | nil =>
      rw [List.append_nil] at behind
      rcases cut_cons_eq_some wasCut with
        ⟨_, cutRest⟩ | ⟨_, following, _, _, _, rfl⟩
      · rcases cut_cons_eq_some cutRest with
          ⟨joined, _⟩ | ⟨_, following, _, _, _, rfl⟩
        · refine absurd joined ?_
          simp [joins, before, operator.symbol_plain.1, operator.symbol_plain.2]
        · rw [Reading.complete_cons_iff]
          rintro ⟨isOperand, _⟩
          have ends := (joined_of_isOperand isOperand).2
          rw [EndsInNumber, List.getLast?_concat, Option.any_some,
            operator.symbol_plain.1] at ends
          cases ends
      · rw [Reading.complete_cons_iff]
        rintro ⟨isOperand, _⟩
        exact behind (joined_of_isOperand isOperand).2
  | cons character front ih =>
      rcases cut_cons_eq_some wasCut with
        ⟨_, cutRest⟩ | ⟨_, following, _, _, cutRest, rfl⟩
      · apply ih _ cutRest
        rw [List.append_assoc, List.singleton_append]
        exact behind
      · have behindRest : ¬EndsInNumber ([] ++ front) := by
          intro ends
          have nonempty : front ≠ [] := ends.ne_nil
          rw [List.nil_append,
            ← endsInNumber_append_iff nonempty (kept ++ [character]),
            List.append_assoc, List.singleton_append] at ends
          exact behind ends
        rw [Reading.complete_cons_iff]
        rintro ⟨_, complete⟩
        exact ih behindRest cutRest complete

theorem malformed_of_stranded
    {expression front rest : Text}
    {operator : Operator}
    {next : Char}
    (behind : ¬EndsInNumber front)
    (before : isNumberCharacter next = false)
    (plain : sanitize expression = front ++ operator.symbol :: next :: rest)
    (someNumber :
      ¬∀ character ∈ sanitize expression,
        Operator.isSymbol character = true) :
    Malformed expression := by
  apply evaluate_of_incomplete someNumber
  rintro ⟨reading, complete, text⟩
  have wasCut := cut_text complete.admitted
  rw [text, plain] at wasCut
  rw [← List.nil_append front] at behind
  exact not_complete_of_stranded behind before wasCut complete

/-! ## In front of the last operand -/

/--
What stands in front of a last operand: nothing, or an expression that comes to
a value, and an operator.
-/
inductive Opens : Text → Option (Binary64 × Operator) → Prop where
  | nothing : Opens [] none
  | operator
      {earlier : Text}
      {running : Binary64}
      {character : Char}
      {operator : Operator}
      (comes : ComesTo earlier running)
      (spelled : plainCharacter character = operator.symbol) :
      Opens (earlier ++ [character]) (some (running, operator))

/-- What the last operand makes of the value in front of it. -/
def finish :
    Option (Binary64 × Operator) → Binary64 → Except UnknownSymbol Outcome
  | none, number => .ok (.value number)
  | some (running, operator), number =>
      TokenStream.reduceFrom running [([operator.symbol], number)]

theorem ComesTo.endsInNumber
    {expression : Text}
    {number : Binary64}
    (comes : ComesTo expression number) :
    EndsInNumber expression := by
  rcases comes with ⟨reading, _, complete, text, _⟩
  have ends := complete.endsInNumber
  rw [text, endsInNumber_sanitize_iff] at ends
  exact ends

section Opens

variable
  {lead expression operand : Text}
  {pending : Option (Binary64 × Operator)}
  (opens : Opens lead pending)

include opens

theorem Opens.atOperandStart : AtOperandStart lead := by
  cases opens with
  | nothing => exact atOperandStart_nil
  | operator comes spelled =>
      exact
        (atOperandStart_concat_iff _ _).mpr ⟨⟨_, spelled⟩, comes.endsInNumber⟩

theorem Opens.not_endsInNumber : ¬EndsInNumber lead := by
  cases opens with
  | nothing => exact Bool.false_ne_true
  | @operator earlier _ _ _ _ spelled =>
      exact not_endsInNumber_concat spelled earlier

/-- Any operand can stand behind what opens one. -/
theorem Opens.evaluate_eq
    {number : Binary64}
    {outcome : Outcome}
    (plain : sanitize expression = sanitize lead ++ operand)
    (isOperand : Literal.IsOperand operand)
    (read : Binary64.ofLiteral? operand = some number)
    (finished : finish pending number = .ok outcome) :
    ∃ notices, evaluate expression = .ok (outcome, notices) := by
  have complete : Reading.Complete ⟨operand, []⟩ := by
    intro only member
    rw [List.mem_singleton.mp member]
    exact isOperand
  have noGlyph : sanitize operand = operand :=
    sanitize_of_joined (joined_of_isOperand isOperand).1
  cases opens with
  | nothing =>
      exact
        evaluate_of_complete complete
          ((Reading.text_single operand).trans plain.symm)
          (⟨read, rfl⟩ : Reading.Means _ ⟨number, []⟩) finished
  | @operator earlier running character operator comes spelled =>
      rcases
          evaluate_continued_of_complete comes spelled complete
            ((Reading.text_single operand).trans noGlyph.symm)
            (⟨read, rfl⟩ : Reading.Means _ ⟨number, []⟩) finished with
        ⟨notices, evaluated⟩
      refine evaluate_of_sanitize_eq ?_ evaluated
      rw [plain, ← List.singleton_append, ← List.append_assoc, sanitize_append,
        noGlyph]

/-- What is kept in one piece there and is no operand is malformed. -/
theorem Opens.malformed
    (plain : sanitize expression = sanitize lead ++ operand)
    (joined : Joined [] operand)
    (ends : EndsInNumber operand)
    (noOperand : ¬Literal.IsOperand operand) :
    Malformed expression := by
  have wasCut : cut [] operand = some ⟨operand, []⟩ := by
    have whole := cut_append_of_joined joined []
    rw [List.append_nil] at whole
    exact whole
  have alone :
      ¬∃ reading : Reading, reading.Complete ∧ reading.text = operand := by
    rintro ⟨reading, complete, text⟩
    have same := cut_text complete.admitted
    rw [text, wasCut] at same
    cases same
    exact noOperand (complete operand List.mem_cons_self)
  apply evaluate_of_incomplete
  · intro symbols
    rcases ends.exists_not_symbol with ⟨character, member, noSymbol⟩
    rw [plain] at symbols
    rw [symbols character (List.mem_append_right _ member)] at noSymbol
    cases noSymbol
  · rw [plain]
    cases opens with
    | nothing => exact alone
    | @operator earlier running character operator comes spelled =>
        rcases comes with ⟨reading, _, complete, text, _⟩
        rw [sanitize_append, List.append_assoc, ← text]
        show ¬∃ whole : Reading,
          whole.Complete ∧
            whole.text = reading.text ++ plainCharacter character :: operand
        rw [spelled, complete_continued_iff complete]
        exact alone

end Opens

namespace OperatorChain

theorem value_concat
    (first operand : Binary64)
    (before : List (Operator × Binary64))
    (operator : Operator) :
    value ⟨first, before ++ [(operator, operand)]⟩ =
      operator.result (value ⟨first, before⟩) operand := by
  rw [value, List.foldl_append]
  rfl

theorem Unstopped.of_concat
    {first operand : Binary64}
    {before : List (Operator × Binary64)}
    {operator : Operator}
    (unstopped : Unstopped ⟨first, before ++ [(operator, operand)]⟩) :
    Unstopped ⟨first, before⟩ ∧
      operator.stop? (value ⟨first, before⟩) operand = none := by
  constructor
  · intro earlier other number after split
    apply unstopped earlier other number (after ++ [(operator, operand)])
    exact congrArg (· ++ [(operator, operand)]) split |>.trans (by simp)
  · exact unstopped before operator operand [] rfl

end OperatorChain

/-- The last operand of a reading is the last one of its chain. -/
theorem Reading.Means.of_concat
    {first operand : Text}
    {init : List (Operator × Text)}
    {operator : Operator}
    {chain : OperatorChain}
    (means : Means ⟨first, init ++ [(operator, operand)]⟩ chain) :
    ∃ before last,
      chain.rest = before ++ [(operator, last)] ∧
        Means ⟨first, init⟩ ⟨chain.first, before⟩ ∧
          Binary64.ofLiteral? operand = some last := by
  rcases means with ⟨readFirst, readRest⟩
  rw [List.map_append] at readRest
  rcases List.map_eq_append_iff.mp readRest.symm with
    ⟨before, others, split, readBefore, readOthers⟩
  rcases List.map_eq_singleton_iff.mp readOthers with
    ⟨⟨same, last⟩, rfl, readLast⟩
  cases congrArg Prod.fst readLast
  exact
    ⟨before, last, split, ⟨readFirst, readBefore.symm⟩,
      (congrArg Prod.snd readLast).symm⟩

/-- An expression that comes to a value ends in an operand. -/
theorem ComesTo.exists_opens
    {expression : Text}
    {number : Binary64}
    (comes : ComesTo expression number) :
    ∃ lead pending operand last,
      Opens lead pending ∧
        sanitize expression = sanitize lead ++ operand ∧
          Literal.IsOperand operand ∧
            Binary64.ofLiteral? operand = some last ∧
              finish pending last = .ok (.value number) := by
  rcases comes with ⟨⟨first, rest⟩, chain, complete, text, means, unstopped, rfl⟩
  rcases List.eq_nil_or_concat rest with rfl | ⟨init, ⟨operator, operand⟩, rfl⟩
  · have alone : chain.rest = [] := List.map_eq_nil_iff.mp means.2.symm
    refine
      ⟨[], none, first, chain.first, .nothing, ?_,
        complete first List.mem_cons_self, means.1, ?_⟩
    · rw [← text, Reading.text_single]
      rfl
    · rw [finish, OperatorChain.value, alone]
      rfl
  · rw [List.concat_eq_append] at complete text means
    rcases means.of_concat with ⟨before, last, split, meansBefore, read⟩
    rcases chain with ⟨chainFirst, chainRest⟩
    dsimp only at split meansBefore
    subst split
    rcases unstopped.of_concat with ⟨unstoppedBefore, free⟩
    have parts :
        Reading.Complete ⟨first, init⟩ ∧ Reading.Complete ⟨operand, []⟩ :=
      (Reading.complete_followedBy_iff ⟨first, init⟩ operator
        ⟨operand, []⟩).mp complete
    have whole :
        sanitize expression =
          Reading.text ⟨first, init⟩ ++ operator.symbol :: operand := by
      have joined :=
        Reading.text_followedBy ⟨first, init⟩ operator ⟨operand, []⟩
      rw [Reading.text_single] at joined
      exact text.symm.trans joined
    have plain := sanitize_of_sanitize_eq_append whole
    refine
      ⟨Reading.text ⟨first, init⟩ ++ [operator.symbol], some (_, operator),
        operand, last,
        .operator
          ⟨_, _, parts.1, plain.symm, meansBefore, unstoppedBefore, rfl⟩
          operator.plainCharacter_symbol,
        ?_, parts.2 operand List.mem_cons_self, read, ?_⟩
    · rw [whole, sanitize_append, plain, List.append_assoc, sanitize_cons,
        operator.plainCharacter_symbol]
      rfl
    · rw [finish, TokenStream.reduceFrom_of_free free,
        OperatorChain.value_concat]
      rfl

/-! ## Another last operand -/

/-- Only the remainder is malformed, and not by taking away what is no zero. -/
theorem Operator.stop?_malformed_of_zero
    {operator : Operator}
    {running last other : Binary64}
    (stop : operator.stop? running other = some .malformedExpression)
    (isNumber : last ≠ .nan)
    (zero : last.isZero = true → other.isZero = true) :
    operator.stop? running last = some .malformedExpression := by
  cases operator with
  | add => cases stop
  | subtract => cases stop
  | multiply => cases stop
  | divide =>
      rw [stop?] at stop
      split at stop <;> cases stop
  | remainder =>
      rw [stop?] at stop ⊢
      split at stop
      · rename_i holds
        rcases holds with ⟨infinite, nonzero, _⟩
        have lastNonzero : last.isZero = false := by
          rw [← Bool.not_eq_true]
          intro isZero
          rw [zero isZero] at nonzero
          cases nonzero
        rw [if_pos ⟨infinite, lastNonzero, isNumber⟩]
      · cases stop

/--
Another last operand does not make the expression malformed, unless it takes
away a zero.
-/
theorem exists_finish_of_value
    {pending : Option (Binary64 × Operator)}
    {last other number : Binary64}
    (finished : finish pending last = .ok (.value number))
    (isNumber : last ≠ .nan)
    (zero : last.isZero = true → other.isZero = true) :
    ∃ outcome,
      finish pending other = .ok outcome ∧
        ∀ cause, outcome = .failure cause →
          cause.kind ≠ .malformedExpression := by
  cases pending with
  | none =>
      refine ⟨.value other, rfl, ?_⟩
      intro cause equal
      cases equal
  | some pair =>
      rcases pair with ⟨running, operator⟩
      rw [finish] at finished ⊢
      cases stop : operator.stop? running other with
      | none =>
          refine ⟨.value _, TokenStream.reduceFrom_of_free stop [], ?_⟩
          intro cause equal
          cases equal
      | some kind =>
          rcases TokenStream.reduceFrom_of_stop stop [] with
            ⟨cause, failed, kinds⟩
          refine ⟨_, failed, ?_⟩
          intro same equal malformed
          cases equal
          rw [kinds] at malformed
          rw [malformed] at stop
          have earlier := Operator.stop?_malformed_of_zero stop isNumber zero
          rcases TokenStream.reduceFrom_of_stop earlier [] with
            ⟨_, failedToo, _⟩
          rw [failedToo] at finished
          cases finished

end PocketCalc
