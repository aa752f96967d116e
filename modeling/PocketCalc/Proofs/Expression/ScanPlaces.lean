import PocketCalc.Proofs.Expression.BareScanner

/-!
# The places of a scan

A scanner that has come to a place of an expression has read the characters
before it, one step for each of them.  Its pending characters stand directly
before the place; if there are none, the place is the start or directly behind
the last operator that was recorded.  So the character before the place says
whether the pending characters end in a digit or point, and it alone decides
about an exponent mark.

A character is stray if no expression has it, or if it is an exponent mark that
does not stand directly behind a digit or point.  The scan fails for an
unexpected character exactly if it comes to the first stray one of the
expression before it has to complete an operand that is no number.
-/

namespace PocketCalc

namespace Scanner

/-! ## What a scanner knows of the text before it -/

/-- What a scanner remembers of the text that it has read. -/
structure StandsBehind (scanner : Scanner) (before : Text) : Prop where
  ready : scanner.Ready
  pending : scanner.pending <:+ before
  operator :
    scanner.pending = [] →
      before = [] ∨
        ∃ operator : Operator, before.getLast? = some operator.symbol

theorem start_standsBehind : start.StandsBehind [] where
  ready := start_ready
  pending := List.suffix_rfl
  operator _ := .inl rfl

/-- A step takes a scanner behind one more character. -/
theorem StandsBehind.step
    {scanner following : Scanner}
    {before expression : Text}
    {character : Char}
    {next : Option Char}
    (behind : scanner.StandsBehind before)
    (stepped : scanner.step expression character next = .ok following) :
    following.StandsBehind (before ++ [character]) := by
  have effect := behind.ready.stepEffect expression character next
  rw [stepped] at effect
  cases effect with
  | kept joined =>
      refine ⟨Ready.keep scanner character _, ?_, ?_⟩
      · rcases behind.pending with ⟨front, rfl⟩
        exact ⟨front, (List.append_assoc _ _ _).symm⟩
      · intro nothing
        simp [keep] at nothing
  | recorded symbol completed nothing =>
      rename_i operator finished
      refine ⟨Ready.record finished character, ?_, ?_⟩
      · change finished.pending <:+ _
        rw [nothing]
        exact List.nil_suffix
      · intro _
        refine .inr ⟨operator, ?_⟩
        rw [← symbol, List.getLast?_concat]

/-- The operand under way ends in a digit or point just if the text does. -/
theorem StandsBehind.any_getLast?_pending
    {scanner : Scanner}
    {before : Text}
    (behind : scanner.StandsBehind before) :
    scanner.pending.getLast?.any isNumberCharacter =
      before.getLast?.any isNumberCharacter := by
  by_cases nothing : scanner.pending = []
  · rw [nothing]
    rcases behind.operator nothing with rfl | ⟨operator, last⟩
    · rfl
    · rw [last, Option.any_some, operator.symbol_plain.1]
      rfl
  · rcases behind.pending with ⟨front, split⟩
    rw [← split, List.getLast?_append,
      List.getLast?_eq_some_getLast nothing, Option.some_or]

end Scanner

/-! ## Stray characters -/

/-- Whether an expression of symbols cannot have a character behind a text. -/
def isStray (before : Text) (character : Char) : Bool :=
  !(isNumberCharacter character || Literal.isExponentMark character ||
      Operator.isSymbol character) ||
    (Literal.isExponentMark character &&
      !before.getLast?.any isNumberCharacter)

/-- Whether the character at a place is stray. -/
def strayAt (expression : Text) (place : Nat) : Bool :=
  expression[place]?.any (isStray (expression.take place))

/-- The first stray character of an expression stands at a place. -/
structure FirstStray (expression : Text) (place : Nat) (character : Char) :
    Prop where
  found : expression[place]? = some character
  stray : isStray (expression.take place) character = true
  first : ∀ earlier, earlier < place → strayAt expression earlier = false

/-- A sign is an operator symbol. -/
theorem isSymbol_of_isSign
    {character : Char}
    (sign : Literal.isSign character = true) :
    Operator.isSymbol character = true := by
  rw [Literal.isSign, Bool.or_eq_true, decide_eq_true_eq,
    decide_eq_true_eq] at sign
  rcases sign with rfl | rfl <;> rfl

/-- An exponent mark is kept exactly behind a digit or point. -/
theorem joins_of_isExponentMark
    {mark : Char}
    (marked : Literal.isExponentMark mark = true)
    (kept : Text)
    (next : Option Char) :
    joins kept mark next = kept.getLast?.any isNumberCharacter ∧
      Operator.isSymbol mark = false := by
  rw [joins, marked]
  rw [Literal.isExponentMark, Bool.or_eq_true, decide_eq_true_eq,
    decide_eq_true_eq] at marked
  rcases marked with rfl | rfl <;>
    simp [isNumberCharacter, Literal.isSign, Operator.isSymbol,
      Operator.symbolRow]

/-- What is neither a number character nor a mark is kept only as a symbol. -/
theorem joins_of_not_isSymbol
    {character : Char}
    (noNumber : isNumberCharacter character = false)
    (unmarked : Literal.isExponentMark character = false)
    (noSymbol : Operator.isSymbol character = false)
    (kept : Text)
    (next : Option Char) :
    joins kept character next = false := by
  have noSign : Literal.isSign character = false := by
    rw [← Bool.not_eq_true]
    intro sign
    rw [isSymbol_of_isSign sign] at noSymbol
    cases noSymbol
  have noMinus : character ≠ '-' := by
    rintro rfl
    cases noSign
  simp [joins, noNumber, unmarked, noSign, noMinus]

namespace Scanner

/-- Stray characters are those that are neither kept nor operators. -/
theorem StandsBehind.isStray_iff
    {scanner : Scanner}
    {before : Text}
    (behind : scanner.StandsBehind before)
    (character : Char)
    (next : Option Char) :
    isStray before character = true ↔
      joins scanner.pending character next = false ∧
        Operator.isSymbol character = false := by
  rw [isStray, ← behind.any_getLast?_pending]
  cases marked : Literal.isExponentMark character with
  | true =>
      rcases joins_of_isExponentMark marked scanner.pending next with
        ⟨joined, noSymbol⟩
      simp [joined, noSymbol]
  | false =>
      cases number : isNumberCharacter character with
      | true => simp [joins, number]
      | false =>
          cases symbol : Operator.isSymbol character with
          | true => simp
          | false =>
              simp [joins_of_not_isSymbol number marked symbol]

/-- A step fails for an unexpected character exactly at a stray one. -/
theorem StandsBehind.step_eq_unexpected_iff
    {scanner : Scanner}
    {before : Text}
    (behind : scanner.StandsBehind before)
    (expression : Text)
    (character : Char)
    (next : Option Char) :
    scanner.step expression character next =
        .error (.unexpectedCharacter character expression) ↔
      isStray before character = true := by
  rw [behind.isStray_iff character next]
  constructor
  · intro failed
    have effect := behind.ready.stepEffect expression character next
    rw [failed] at effect
    cases effect with
    | unexpected apart noSymbol => exact ⟨apart, noSymbol⟩
  · rintro ⟨apart, noSymbol⟩
    rw [step_of_apart expression apart, noSymbol, if_neg Bool.false_ne_true]

/-- An exponent mark is taken exactly behind a digit or point. -/
theorem StandsBehind.step_of_isExponentMark
    {scanner : Scanner}
    {before : Text}
    {mark : Char}
    (behind : scanner.StandsBehind before)
    (marked : Literal.isExponentMark mark = true)
    (expression : Text)
    (next : Option Char) :
    scanner.step expression mark next =
      if before.getLast?.any isNumberCharacter then
        .ok (scanner.keep mark)
      else
        .error (.unexpectedCharacter mark expression) := by
  split
  · rename_i number
    rw [← behind.any_getLast?_pending] at number
    have noNumber : isNumberCharacter mark = false := by
      rw [isNumberCharacter]
      simp [Literal.stop_of_isExponentMark marked]
    rw [Scanner.step, if_neg (ne_true_of_eq_false noNumber), endsWith, marked,
      number]
    rfl
  · rename_i noNumber
    rw [behind.step_eq_unexpected_iff]
    rw [Bool.not_eq_true] at noNumber
    rw [isStray, marked, noNumber]
    exact Bool.or_true _

/-! ## The places that a scan comes to -/

/-- A scanner has come to a place of an expression, one step for each character. -/
inductive Reaches (expression : Text) : Nat → Scanner → Prop where
  | start : Reaches expression 0 start
  | step
      {place : Nat}
      {scanner following : Scanner}
      {character : Char}
      (reached : Reaches expression place scanner)
      (read : expression[place]? = some character)
      (stepped :
        scanner.step expression character expression[place + 1]? =
          .ok following) :
      Reaches expression (place + 1) following

section Places

variable
  {expression : Text}
  {place : Nat}
  {scanner : Scanner}

theorem drop_eq_cons_of_getElem?
    {character : Char}
    (read : expression[place]? = some character) :
    expression.drop place = character :: expression.drop (place + 1) := by
  rcases List.getElem?_eq_some_iff.mp read with ⟨inside, rfl⟩
  exact List.drop_eq_getElem_cons inside

theorem Reaches.standsBehind (reached : Reaches expression place scanner) :
    scanner.StandsBehind (expression.take place) := by
  induction reached with
  | start => exact start_standsBehind
  | step _ read stepped ih =>
      rw [List.take_add_one, read]
      exact ih.step stepped

/-- One place has one scanner. -/
theorem Reaches.unique
    {other : Scanner}
    (reached : Reaches expression place scanner)
    (again : Reaches expression place other) :
    scanner = other := by
  induction reached generalizing other with
  | start =>
      cases again
      rfl
  | step _ read stepped ih =>
      cases again with
      | step otherReached otherRead otherStepped =>
          cases ih otherReached
          rw [read] at otherRead
          cases otherRead
          rw [stepped] at otherStepped
          cases otherStepped
          rfl

/-- The scan has taken the character at every place that it has passed. -/
theorem Reaches.earlier
    {earlier : Nat}
    (reached : Reaches expression place scanner)
    (before : earlier < place) :
    ∃ passed character following,
      Reaches expression earlier passed ∧
        expression[earlier]? = some character ∧
          passed.step expression character expression[earlier + 1]? =
            .ok following := by
  induction reached with
  | start => exact absurd before (Nat.not_lt_zero earlier)
  | step reached read stepped ih =>
      rcases Nat.lt_succ_iff_lt_or_eq.mp before with sooner | rfl
      · exact ih sooner
      · exact ⟨_, _, _, reached, read, stepped⟩

/-- Without an operand under way the place is the start or behind an operator. -/
theorem Reaches.recorded_of_nothing
    (reached : Reaches expression place scanner)
    (nothing : scanner.pending = []) :
    place = 0 ∨
      ∃ earlier previous, ∃ operator : Operator,
        place = earlier + 1 ∧
          Reaches expression earlier previous ∧
            expression[earlier]? = some operator.symbol ∧
              scanner.operators =
                previous.operators ++ [[operator.symbol]] := by
  cases reached with
  | start => exact .inl rfl
  | step before read stepped =>
      rename_i earlier previous character
      have effect :=
        before.standsBehind.ready.stepEffect expression character
          expression[earlier + 1]?
      rw [stepped] at effect
      cases effect with
      | kept joined => simp [keep] at nothing
      | recorded symbol completed complete =>
          rename_i operator finished
          cases symbol
          refine .inr ⟨earlier, previous, operator, rfl, before, read, ?_⟩
          rw [record, complete_operators completed]

/-- From a place the scan goes on as from the start. -/
theorem Reaches.run_eq (reached : Reaches expression place scanner) :
    Scanner.start.run expression expression =
      scanner.run expression (expression.drop place) := by
  induction reached with
  | start => rfl
  | step _ read stepped ih =>
      rw [ih, drop_eq_cons_of_getElem? read, run, List.head?_drop, stepped]

/-- A scan that fails has come to the place where it fails. -/
theorem Reaches.exists_of_run_error
    {fault : ScanFault}
    (reached : Reaches expression place scanner)
    (failed :
      scanner.run expression (expression.drop place) = .error fault) :
    (∃ stop last character,
        Reaches expression stop last ∧
          expression[stop]? = some character ∧
            last.step expression character expression[stop + 1]? =
              .error fault) ∨
      ∃ stop last,
        Reaches expression stop last ∧ last.complete = .error fault := by
  generalize left : expression.drop place = rest at failed
  induction rest generalizing place scanner with
  | nil => exact .inr ⟨place, scanner, reached, failed⟩
  | cons character rest ih =>
      have read : expression[place]? = some character := by
        rw [← List.head?_drop, left]
        rfl
      have following : expression.drop (place + 1) = rest := by
        rw [drop_eq_cons_of_getElem? read] at left
        exact (List.cons.inj left).2
      rw [run, ← following, List.head?_drop] at failed
      cases stepped :
          scanner.step expression character expression[place + 1]? with
      | error earlier =>
          rw [stepped] at failed
          cases failed
          exact .inl ⟨place, scanner, character, reached, read, stepped⟩
      | ok next =>
          rw [stepped] at failed
          apply ih (reached.step read stepped) following
          rw [← following]
          exact failed

end Places

end Scanner

/-! ## Where a scan fails -/

/-- A scan comes to a place where it has to complete an operand that is no number. -/
def RefusesOperandAt (expression : Text) (place : Nat) : Prop :=
  ∃ scanner character operand,
    Scanner.Reaches expression place scanner ∧
      expression[place]? = some character ∧
        scanner.step expression character expression[place + 1]? =
          .error (.invalidNumber operand)

section Failure

variable
  {expression : Text}
  {place : Nat}
  {character : Char}

/-- A scan has passed no stray character and has refused no operand. -/
theorem Scanner.Reaches.passed
    {scanner : Scanner}
    {earlier : Nat}
    (reached : Scanner.Reaches expression place scanner)
    (before : earlier < place) :
    strayAt expression earlier = false ∧ ¬RefusesOperandAt expression earlier := by
  rcases reached.earlier before with
    ⟨passed, taken, following, here, read, stepped⟩
  constructor
  · rw [strayAt, read, Option.any_some, ← Bool.not_eq_true]
    intro stray
    rw [← here.standsBehind.step_eq_unexpected_iff expression taken, stepped]
      at stray
    cases stray
  · rintro ⟨other, refused, operand, again, otherRead, failed⟩
    cases here.unique again
    rw [read] at otherRead
    cases otherRead
    rw [stepped] at failed
    cases failed

/-- Tokenizing fails for an unexpected character just if the run does. -/
theorem tokenize_eq_unexpected_iff :
    tokenize expression = .error (.unexpectedCharacter character expression) ↔
      Scanner.start.run expression expression =
        .error (.unexpectedCharacter character expression) := by
  rw [tokenize]
  constructor
  · intro failed
    split at failed
    · rename_i stopped
      rw [stopped]
      cases failed
      rfl
    · split at failed <;> cases failed
  · intro failed
    rw [failed]

/-- Without stray character or refused operand the scan comes to a place. -/
theorem exists_reaches
    (noStray : ∀ earlier, earlier < place → strayAt expression earlier = false)
    (noRefusal : ∀ earlier, earlier < place → ¬RefusesOperandAt expression earlier)
    (inside : place ≤ expression.length) :
    ∃ scanner, Scanner.Reaches expression place scanner := by
  induction place with
  | zero => exact ⟨_, .start⟩
  | succ place ih =>
      rcases
          ih (fun earlier before => noStray earlier (Nat.lt_succ_of_lt before))
            (fun earlier before => noRefusal earlier (Nat.lt_succ_of_lt before))
            (Nat.le_of_succ_le inside) with
        ⟨scanner, reached⟩
      have read : expression[place]? = some expression[place] :=
        List.getElem?_eq_getElem inside
      have behind := reached.standsBehind
      have effect :=
        behind.ready.stepEffect expression expression[place]
          expression[place + 1]?
      cases stepped :
          scanner.step expression expression[place] expression[place + 1]? with
      | ok following => exact ⟨following, reached.step read stepped⟩
      | error fault =>
          exfalso
          rw [stepped] at effect
          cases effect with
          | refused symbol something noNumber =>
              exact
                noRefusal place (Nat.lt_succ_self place)
                  ⟨scanner, _, _, reached, read, stepped⟩
          | unexpected apart noSymbol =>
              rw [behind.step_eq_unexpected_iff] at stepped
              have stray := noStray place (Nat.lt_succ_self place)
              rw [strayAt, read, Option.any_some, stepped] at stray
              cases stray

/--
The scan fails for an unexpected character exactly if it comes to the first
stray character without having to complete an operand that is no number.
-/
theorem tokenize_unexpected_iff_exists_firstStray :
    tokenize expression = .error (.unexpectedCharacter character expression) ↔
      ∃ place,
        FirstStray expression place character ∧
          ∀ earlier, earlier < place → ¬RefusesOperandAt expression earlier := by
  rw [tokenize_eq_unexpected_iff]
  constructor
  · intro failed
    rcases Scanner.Reaches.start.exists_of_run_error failed with
      ⟨place, scanner, other, reached, read, stepped⟩ |
        ⟨place, scanner, reached, incomplete⟩
    · have effect :=
        reached.standsBehind.ready.stepEffect expression other
          expression[place + 1]?
      rw [stepped] at effect
      cases effect with
      | unexpected apart noSymbol =>
          rw [reached.standsBehind.step_eq_unexpected_iff] at stepped
          exact
            ⟨place,
              ⟨read, stepped, fun _ before => (reached.passed before).1⟩,
              fun _ before => (reached.passed before).2⟩
    · rcases Scanner.fault_of_complete incomplete with ⟨_, number⟩
      cases number
  · rintro ⟨place, stray, noRefusal⟩
    have inside := (List.getElem?_eq_some_iff.mp stray.found).1
    rcases exists_reaches stray.first noRefusal (Nat.le_of_lt inside) with
      ⟨scanner, reached⟩
    have stepped :=
      (reached.standsBehind.step_eq_unexpected_iff expression character
          expression[place + 1]?).mpr stray.stray
    rw [reached.run_eq, Scanner.drop_eq_cons_of_getElem? stray.found,
      Scanner.run, List.head?_drop, stepped]

end Failure

/--
The scanner does without its flag.  At every place of a scan the characters of
the operand under way stand directly before the place; if there are none, an
operand is expected, and the place is the start or directly behind an operator
that was just recorded.  A tokenizer without flag gives the same stream or the
same fault.  An exponent mark is taken exactly behind a digit or point, and a
scan fails for an unexpected character exactly if it comes to the first stray
one without having to complete an operand that is no number.
-/
theorem scan_needs_no_flag (expression : Text) :
    (∀ place scanner,
        Scanner.Reaches expression place scanner →
          (scanner.pending ≠ [] →
            scanner.pending <:+ expression.take place) ∧
          (scanner.pending = [] →
            scanner.operandExpected = true ∧
              (place = 0 ∨
                ∃ earlier previous, ∃ operator : Operator,
                  place = earlier + 1 ∧
                    Scanner.Reaches expression earlier previous ∧
                      expression[earlier]? = some operator.symbol ∧
                        scanner.operators =
                          previous.operators ++ [[operator.symbol]])) ∧
          ∀ mark,
            expression[place]? = some mark →
              Literal.isExponentMark mark = true →
                scanner.step expression mark expression[place + 1]? =
                  if (expression.take place).getLast?.any
                      isNumberCharacter then
                    .ok (scanner.keep mark)
                  else
                    .error (.unexpectedCharacter mark expression)) ∧
      BareScanner.tokenize expression = tokenize expression ∧
        ∀ character,
          tokenize expression =
              .error (.unexpectedCharacter character expression) ↔
            ∃ place,
              FirstStray expression place character ∧
                ∀ earlier,
                  earlier < place → ¬RefusesOperandAt expression earlier := by
  refine
    ⟨?_, BareScanner.tokenize_eq expression, fun _ =>
      tokenize_unexpected_iff_exists_firstStray⟩
  intro place scanner reached
  have behind := reached.standsBehind
  refine ⟨fun _ => behind.pending, ?_, ?_⟩
  · intro nothing
    exact ⟨behind.ready nothing, reached.recorded_of_nothing nothing⟩
  · intro mark _ marked
    exact behind.step_of_isExponentMark marked expression _

/-- An operand that is no number is refused before a later stray character. -/
example :
    tokenize "1..2+x".toList = .error (.invalidNumber "1..2".toList) ∧
      tokenize "1..2x".toList =
        .error (.unexpectedCharacter 'x' "1..2x".toList) := by
  decide

end PocketCalc
