import Mathlib.Data.List.Infix
import PocketCalc.Proofs.Expression.Classification

/-!
# Symbols without an operation

A token stream may carry every run of neighbours in the row of symbols: the
five symbols, longer runs of them, and the empty text.  Only the five have an
operation behind them, so a reduction that comes to another one has no outcome.
There is one exception.  The empty text is a part of every text and counts as
dividing, and before a zero it is reported as a division by zero.

The main theorem says exactly where a reduction has no outcome and where it
reports a division by zero.  Streams whose symbols are single characters always
have an outcome, and only the division sign divides by zero there.
-/

namespace PocketCalc

namespace Operator

/-- The only texts with an operation are the symbols of the operators. -/
theorem eq_singleton_of_ofSymbol?
    {text : Text}
    {operator : Operator}
    (named : ofSymbol? text = some operator) :
    text = [operator.symbol] := by
  rw [ofSymbol?.eq_def] at named
  split at named
  all_goals cases named
  all_goals rfl

/-- Of the accepted symbols only those of one character have an operation. -/
theorem ofSymbol?_eq_none_iff
    {symbol : Text}
    (accepted : accepts symbol = true) :
    ofSymbol? symbol = none ↔ symbol.length ≠ 1 := by
  constructor
  · intro unknown single
    rcases List.length_eq_one_iff.mp single with ⟨character, rfl⟩
    rw [accepts, decide_eq_true_eq, List.singleton_infix_iff] at accepted
    have known : isSymbol character = true := by
      rw [isSymbol, List.contains_iff_mem]
      exact accepted
    rcases exists_symbol_eq known with ⟨operator, rfl⟩
    rw [ofSymbol?_symbol] at unknown
    cases unknown
  · intro notSingle
    cases named : ofSymbol? symbol with
    | none => rfl
    | some operator =>
        rw [eq_singleton_of_ofSymbol? named] at notSingle
        exact absurd rfl notSingle

/-- Dividing are the division sign and the empty text. -/
theorem divides_iff (symbol : Text) :
    divides symbol = true ↔ symbol = [] ∨ symbol = ['/'] := by
  rw [divides, decide_eq_true_eq, List.infix_singleton_iff]

end Operator

namespace TokenStream

open OperatorChain

/-! ## One pair of a reduction -/

/--
What a reduction does at a symbol and an operand: it reports a division by
zero, finds no operation, fails for an operation without a result, or goes on
from the result of an operation that does not stop.
-/
theorem reduceFrom_cons_cases
    (running operand : Binary64)
    (symbol : Text)
    (rest : List (Text × Binary64)) :
    (Operator.divides symbol = true ∧ operand.isZero = true ∧
        reduceFrom running ((symbol, operand) :: rest) =
          .ok (.failure (.divisionByZero running symbol))) ∨
      (Operator.ofSymbol? symbol = none ∧
        ¬(Operator.divides symbol = true ∧ operand.isZero = true) ∧
          reduceFrom running ((symbol, operand) :: rest) = .error ⟨symbol⟩) ∨
      (∃ cause,
        reduceFrom running ((symbol, operand) :: rest) =
            .ok (.failure cause) ∧
          cause.kind = .malformedExpression) ∨
      ∃ operator : Operator,
        symbol = [operator.symbol] ∧
          operator.stop? running operand = none ∧
            reduceFrom running ((symbol, operand) :: rest) =
              reduceFrom (operator.result running operand) rest := by
  by_cases zero : Operator.divides symbol = true ∧ operand.isZero = true
  · left
    refine ⟨zero.1, zero.2, ?_⟩
    rw [reduceFrom, zero.1, zero.2]
    rfl
  · right
    cases named : Operator.ofSymbol? symbol with
    | none =>
        left
        refine ⟨rfl, zero, ?_⟩
        rw [reduceFrom, if_neg (by rw [Bool.and_eq_true]; exact zero), named]
    | some operator =>
        right
        cases Operator.eq_singleton_of_ofSymbol? named
        cases stop : operator.stop? running operand with
        | none =>
            exact Or.inr ⟨operator, rfl, stop, reduceFrom_of_free stop rest⟩
        | some kind =>
            rcases reduceFrom_of_stop stop rest with ⟨cause, failed, kinds⟩
            refine Or.inl ⟨cause, failed, ?_⟩
            rw [kinds]
            cases operator with
            | divide =>
                have notZero : operand.isZero = false := by
                  rw [← Bool.not_eq_true]
                  exact fun isZero => zero ⟨rfl, isZero⟩
                simp [Operator.stop?, notZero] at stop
            | remainder =>
                rcases Operator.remainder_cases running operand with
                  ⟨malformed, _⟩ | ⟨free, _⟩
                · rw [malformed] at stop
                  exact (Option.some.inj stop).symm
                · rw [free] at stop
                  cases stop
            | add | subtract | multiply => cases stop

/-! ## Where a reduction gets to -/

/--
A reduction from a running value gets to a symbol and an operand, with what
the operations before them have come to.
-/
inductive Reaches :
    Binary64 → List (Text × Binary64) → Binary64 → Text → Binary64 → Prop where
  | here
      {running operand : Binary64}
      {symbol : Text}
      {rest : List (Text × Binary64)} :
      Reaches running ((symbol, operand) :: rest) running symbol operand
  | later
      {running operand value last : Binary64}
      {operator : Operator}
      {symbol : Text}
      {rest : List (Text × Binary64)}
      (free : operator.stop? running operand = none)
      (further :
        Reaches (operator.result running operand) rest value symbol last) :
      Reaches running (([operator.symbol], operand) :: rest) value symbol last

section Pairs

variable
  {running value : Binary64}
  {symbol : Text}
  {pairs : List (Text × Binary64)}

/-- A reduction has no outcome exactly where it gets to such a symbol. -/
theorem reduceFrom_eq_error_iff :
    reduceFrom running pairs = .error ⟨symbol⟩ ↔
      ∃ value operand,
        Reaches running pairs value symbol operand ∧
          Operator.ofSymbol? symbol = none ∧
            ¬(Operator.divides symbol = true ∧ operand.isZero = true) := by
  constructor
  · intro failed
    induction pairs generalizing running with
    | nil => cases failed
    | cons pair rest ih =>
        rcases pair with ⟨first, operand⟩
        rcases reduceFrom_cons_cases running operand first rest with
          ⟨_, _, zero⟩ | ⟨unknown, notZero, here⟩ | ⟨cause, malformed, _⟩ |
            ⟨operator, rfl, free, further⟩
        · rw [zero] at failed
          cases failed
        · rw [here] at failed
          cases failed
          exact ⟨running, operand, .here, unknown, notZero⟩
        · rw [malformed] at failed
          cases failed
        · rw [further] at failed
          rcases ih failed with ⟨value, last, reaches, fault⟩
          exact ⟨value, last, .later free reaches, fault⟩
  · rintro ⟨value, operand, reaches, unknown, notZero⟩
    induction reaches with
    | here =>
        rw [reduceFrom, if_neg (by rw [Bool.and_eq_true]; exact notZero),
          unknown]
    | later free further ih =>
        rw [reduceFrom_of_free free]
        exact ih unknown notZero

/-- A division by zero is reported exactly where a reduction gets to one. -/
theorem reduceFrom_eq_divisionByZero_iff :
    reduceFrom running pairs =
        .ok (.failure (.divisionByZero value symbol)) ↔
      ∃ operand,
        Reaches running pairs value symbol operand ∧
          Operator.divides symbol = true ∧ operand.isZero = true := by
  constructor
  · intro failed
    induction pairs generalizing running with
    | nil => cases failed
    | cons pair rest ih =>
        rcases pair with ⟨first, operand⟩
        rcases reduceFrom_cons_cases running operand first rest with
          ⟨divides, isZero, here⟩ | ⟨_, _, unknown⟩ |
            ⟨cause, malformed, kind⟩ | ⟨operator, rfl, free, further⟩
        · rw [here] at failed
          cases failed
          exact ⟨operand, .here, divides, isZero⟩
        · rw [unknown] at failed
          cases failed
        · rw [malformed] at failed
          cases failed
          cases kind
        · rw [further] at failed
          rcases ih failed with ⟨last, reaches, zero⟩
          exact ⟨last, .later free reaches, zero⟩
  · rintro ⟨operand, reaches, divides, isZero⟩
    induction reaches with
    | here =>
        rw [reduceFrom, divides, isZero]
        rfl
    | later free further ih =>
        rw [reduceFrom_of_free free]
        exact ih divides isZero

theorem Reaches.mem
    {operand : Binary64}
    (reaches : Reaches running pairs value symbol operand) :
    (symbol, operand) ∈ pairs := by
  induction reaches with
  | here => exact List.mem_cons_self
  | later free further ih => exact List.mem_cons_of_mem _ ih

end Pairs

/-! ## Whole streams -/

/--
The reduction of a stream gets to a symbol and an operand.  Streams without
numbers and those that are not balanced are settled before any operation.
-/
def Meets
    (stream : TokenStream)
    (value : Binary64)
    (symbol : Text)
    (operand : Binary64) : Prop :=
  ∃ first operands,
    stream.numbers = first :: operands ∧
      stream.isBalanced = true ∧
        Reaches first (stream.operators.zip operands) value symbol operand

section Streams

variable
  {stream : TokenStream}
  {value operand : Binary64}
  {symbol : Text}

theorem Meets.mem (meets : stream.Meets value symbol operand) :
    symbol ∈ stream.operators := by
  rcases meets with ⟨first, operands, _, _, reaches⟩
  exact (List.of_mem_zip reaches.mem).1

/--
An ending that is no wrong count and not the zero of an empty stream is the
ending of the pairs behind the first number.
-/
theorem reduce_eq_iff
    {ending : Except UnknownSymbol Outcome}
    (noCount :
      ∀ operators numbers,
        ending ≠ .ok (.failure (.unbalanced operators numbers)))
    (noZero : ending ≠ .ok (.value (.zero false))) :
    stream.reduce = ending ↔
      ∃ first operands,
        stream.numbers = first :: operands ∧
          stream.isBalanced = true ∧
            reduceFrom first (stream.operators.zip operands) = ending := by
  rw [reduce]
  cases numbers : stream.numbers with
  | nil =>
      refine iff_of_false (fun equal => noZero equal.symm) ?_
      rintro ⟨first, operands, split, _⟩
      cases split
  | cons first operands =>
      dsimp only
      cases balanced : stream.isBalanced with
      | false =>
          refine iff_of_false (fun equal => noCount _ _ equal.symm) ?_
          rintro ⟨_, _, _, isBalanced, _⟩
          cases isBalanced
      | true =>
          constructor
          · intro reduced
            exact ⟨first, operands, rfl, rfl, reduced⟩
          · rintro ⟨_, _, split, _, reduced⟩
            cases split
            exact reduced

theorem reduce_eq_error_iff :
    stream.reduce = .error ⟨symbol⟩ ↔
      ∃ value operand,
        stream.Meets value symbol operand ∧
          symbol.length ≠ 1 ∧ ¬(symbol = [] ∧ operand.isZero = true) := by
  rw [reduce_eq_iff (by simp) (by simp)]
  constructor
  · rintro ⟨first, operands, split, balanced, failed⟩
    rcases reduceFrom_eq_error_iff.mp failed with
      ⟨value, operand, reaches, unknown, notZero⟩
    have meets : stream.Meets value symbol operand :=
      ⟨first, operands, split, balanced, reaches⟩
    refine ⟨value, operand, meets, ?_, ?_⟩
    · exact
        (Operator.ofSymbol?_eq_none_iff (stream.accepted _ meets.mem)).mp
          unknown
    · rintro ⟨empty, isZero⟩
      exact notZero ⟨(Operator.divides_iff _).mpr (.inl empty), isZero⟩
  · rintro ⟨value, operand, meets, notSingle, notZero⟩
    have unknown :=
      (Operator.ofSymbol?_eq_none_iff (stream.accepted _ meets.mem)).mpr
        notSingle
    rcases meets with ⟨first, operands, split, balanced, reaches⟩
    refine ⟨first, operands, split, balanced, ?_⟩
    refine reduceFrom_eq_error_iff.mpr ⟨value, operand, reaches, unknown, ?_⟩
    rintro ⟨divides, isZero⟩
    rcases (Operator.divides_iff _).mp divides with empty | rfl
    · exact notZero ⟨empty, isZero⟩
    · exact notSingle rfl

theorem reduce_eq_divisionByZero_iff :
    stream.reduce = .ok (.failure (.divisionByZero value symbol)) ↔
      ∃ operand,
        stream.Meets value symbol operand ∧
          operand.isZero = true ∧ (symbol = [] ∨ symbol = ['/']) := by
  rw [reduce_eq_iff (by simp) (by simp)]
  constructor
  · rintro ⟨first, operands, split, balanced, failed⟩
    rcases reduceFrom_eq_divisionByZero_iff.mp failed with
      ⟨operand, reaches, divides, isZero⟩
    exact
      ⟨operand, ⟨first, operands, split, balanced, reaches⟩, isZero,
        (Operator.divides_iff _).mp divides⟩
  · rintro ⟨operand, ⟨first, operands, split, balanced, reaches⟩, isZero, sign⟩
    refine ⟨first, operands, split, balanced, ?_⟩
    exact
      reduceFrom_eq_divisionByZero_iff.mpr
        ⟨operand, reaches, (Operator.divides_iff _).mpr sign, isZero⟩

end Streams

end TokenStream

/--
A reduction has no outcome exactly if it gets to a symbol that is not a single
character, an empty one before a zero apart.  It reports a division by zero
exactly if it gets to a zero behind the division sign or behind an empty symbol.
So a stream of single characters always has an outcome, and a division by zero
is reported there behind the division sign only.
-/
theorem reduction_faults_at_symbols_without_operation (stream : TokenStream) :
    (∀ symbol,
        stream.reduce = .error ⟨symbol⟩ ↔
          ∃ running operand,
            stream.Meets running symbol operand ∧
              symbol.length ≠ 1 ∧
                ¬(symbol = [] ∧ operand.isZero = true)) ∧
      (∀ running symbol,
        stream.reduce = .ok (.failure (.divisionByZero running symbol)) ↔
          ∃ operand,
            stream.Meets running symbol operand ∧
              operand.isZero = true ∧ (symbol = [] ∨ symbol = ['/'])) ∧
      ((∀ symbol ∈ stream.operators, symbol.length = 1) →
        (∃ outcome, stream.reduce = .ok outcome) ∧
          ∀ cause,
            stream.reduce = .ok (.failure cause) →
              cause.kind = .divisionByZero →
                ∃ running operand,
                  cause = .divisionByZero running ['/'] ∧
                    stream.Meets running ['/'] operand ∧
                      operand.isZero = true) := by
  refine
    ⟨fun _ => TokenStream.reduce_eq_error_iff,
      fun _ _ => TokenStream.reduce_eq_divisionByZero_iff, ?_⟩
  intro single
  constructor
  · cases reduced : stream.reduce with
    | ok outcome => exact ⟨outcome, rfl⟩
    | error unknown =>
        rcases TokenStream.reduce_eq_error_iff.mp reduced with
          ⟨_, _, meets, notSingle, _⟩
        exact absurd (single _ meets.mem) notSingle
  · intro cause failed kind
    cases cause with
    | divisionByZero running symbol =>
        rcases TokenStream.reduce_eq_divisionByZero_iff.mp failed with
          ⟨operand, meets, isZero, rfl | rfl⟩
        · exact absurd (single _ meets.mem) (by simp)
        · exact ⟨running, operand, rfl, meets, isZero⟩
    | unreadable | unbalanced | arithmetic => cases kind

/--
Two neighbouring symbols are accepted as one, which no operation belongs to;
the empty symbol is accepted and reported as a division by zero.
-/
theorem accepted_symbols_without_operation :
    let one := Binary64.ofDecimal false ⟨1, 0⟩
    let two := Binary64.ofDecimal false ⟨2, 0⟩
    (∃ stream,
        TokenStream.ofParts? [one, two] [['+', '-']] = .ok stream ∧
          stream.reduce = .error ⟨['+', '-']⟩) ∧
      ∃ stream,
        TokenStream.ofParts? [one, .zero false] [[]] = .ok stream ∧
          stream.reduce = .ok (.failure (.divisionByZero one [])) :=
  ⟨⟨_, rfl, rfl⟩, _, rfl, rfl⟩

end PocketCalc
