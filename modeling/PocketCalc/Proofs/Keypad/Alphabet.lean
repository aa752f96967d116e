import PocketCalc.Proofs.Expression.Foreign
import PocketCalc.Proofs.Keypad.KeyEffect
import PocketCalc.Proofs.Keypad.TrailingNumber
import PocketCalc.Proofs.Number.Layout

/-!
# Keys build no foreign characters

Keys type digits, points and operators.  Besides these, an expression gets
letters only from a displayed number: the exponent mark, which stands directly
behind a digit there.  Edits at the end of the expression never take that digit
away and leave the mark, so the mark stays where it may stand as long as no
number is displayed by a name and no text for errors is shown.

An expression of such characters can still fail to be evaluated, but not for a
character out of place.
-/

namespace PocketCalc

/-! ## Characters of keys -/

namespace Key

theorem mem_numberRow_of_number
    {character : Char}
    (number : isNumberCharacter character = true) :
    character ∈ numberRow := by
  rw [isNumberCharacter, Bool.or_eq_true, decide_eq_true_eq] at number
  rcases number with digit | rfl
  · rw [Char.isDigit_iff_toNat] at digit
    have codes :
        ∀ code < 58, 48 ≤ code → Char.ofNat code ∈ numberRow := by
      decide
    have found := codes character.toNat (Nat.lt_succ_of_le digit.2) digit.1
    rw [Char.ofNat_toNat] at found
    exact found
  · decide

theorem isTyped_of_number
    {character : Char}
    (number : isNumberCharacter character = true) :
    isTyped [character] = true := by
  apply isTyped_of_isNumber
  rw [isNumber, List.contains_iff_mem]
  exact mem_numberRow_of_number number

theorem exists_of_isTyped
    {token : Text}
    (typed : isTyped token = true) :
    ∃ character, token = [character] ∧ character ∈ numberRow ++ operatorRow := by
  rw [isTyped, Bool.or_eq_true] at typed
  rcases typed with number | operator
  · rcases exists_numberRow_of_isNumber number with ⟨character, rfl, member⟩
    exact ⟨character, rfl, List.mem_append_left _ member⟩
  · rcases exists_operatorRow_of_isOperator operator with
      ⟨character, rfl, member⟩
    exact ⟨character, rfl, List.mem_append_right _ member⟩

/-- What a key types is foreign nowhere. -/
theorem not_foreign_of_isTyped
    {character : Char}
    (typed : isTyped [character] = true)
    (before : Text) :
    isForeign before character = false := by
  have known :
      (numberRow ++ operatorRow).all (fun character =>
        isExpressionCharacter character &&
          !Literal.isExponentMark character) = true :=
    rfl
  rcases exists_of_isTyped typed with ⟨same, equal, member⟩
  cases equal
  have characters := List.all_eq_true.mp known character member
  rw [Bool.and_eq_true, Bool.not_eq_true'] at characters
  rw [isForeign, characters.1, characters.2]
  rfl

end Key

/-! ## Keyed expressions -/

/--
An expression has only characters that keys type, and exponent marks directly
behind a digit.
-/
def Keyed (expression : Text) : Prop :=
  ∀ before character after,
    expression = before ++ character :: after →
      Key.isTyped [character] = true ∨
        (character = 'e' ∧ before.getLast?.any Char.isDigit = true)

namespace Keyed

variable {expression more : Text}

theorem of_typed
    (typed : ∀ character ∈ expression, Key.isTyped [character] = true) :
    Keyed expression := by
  rintro before character after rfl
  exact Or.inl (typed character (by simp))

theorem of_prefix
    (keyed : Keyed (expression ++ more)) :
    Keyed expression := by
  rintro before character after rfl
  apply keyed before character (after ++ more)
  rw [List.append_assoc, List.cons_append]

theorem append
    (keyed : Keyed expression)
    (keyedMore : Keyed more) :
    Keyed (expression ++ more) := by
  intro before character after split
  rcases List.append_eq_append_iff.mp split with
    ⟨inside, rfl, rest⟩ | ⟨inside, rfl, rest⟩
  · rcases keyedMore inside character after rest with typed | ⟨mark, digit⟩
    · exact Or.inl typed
    · refine Or.inr ⟨mark, ?_⟩
      have nonempty : inside ≠ [] := by
        rintro rfl
        cases digit
      rw [List.getLast?_append, List.getLast?_eq_some_getLast nonempty,
        Option.some_or, ← List.getLast?_eq_some_getLast nonempty]
      exact digit
  · cases inside with
    | nil =>
        rcases keyedMore [] character after rest.symm with typed | ⟨_, digit⟩
        · exact Or.inl typed
        · cases digit
    | cons first inside =>
        cases rest
        exact keyed before character inside rfl

/-- An exponent mark can follow a digit. -/
theorem mark
    (keyed : Keyed expression)
    (digit : expression.getLast?.any Char.isDigit = true) :
    Keyed (expression ++ ['e']) := by
  intro before character after split
  rcases List.eq_nil_or_concat after with rfl | ⟨others, last, rfl⟩
  · rcases List.append_inj' split rfl with ⟨rfl, same⟩
    cases same
    exact Or.inr ⟨rfl, digit⟩
  · rw [List.concat_eq_append, ← List.cons_append, ← List.append_assoc] at split
    exact keyed before character others (List.append_inj' split rfl).1

theorem of_laid
    {body : Text}
    (laid : Laid body) :
    Keyed body := by
  have numbers
      {run : Text}
      (characters : ∀ character ∈ run, isNumberCharacter character = true) :
      Keyed run :=
    of_typed fun character member =>
      Key.isTyped_of_number (characters character member)
  cases laid with
  | positional isMantissa =>
      exact numbers (numberCharacters_of_isMantissa isMantissa)
  | @scientific leading power sign isMantissa ends signed _ areDigits _ =>
      have keyedLeading := numbers (numberCharacters_of_isMantissa isMantissa)
      have keyedSign : Keyed [sign] := by
        refine of_typed fun character member => ?_
        rw [List.mem_singleton.mp member]
        rw [Literal.isSign, Bool.or_eq_true, decide_eq_true_eq,
          decide_eq_true_eq] at signed
        rcases signed with rfl | rfl <;> rfl
      have keyedPower :=
        numbers fun character member =>
          isNumberCharacter_of_isDigit (areDigits character member)
      have whole := ((keyedLeading.mark ends).append keyedSign).append keyedPower
      rw [List.append_assoc, List.append_assoc] at whole
      exact whole

/-- The display of a finite number has only such characters. -/
theorem of_display
    {number : Binary64}
    (finite : number.isFinite = true) :
    Keyed number.display := by
  cases number with
  | nan => cases finite
  | infinite negative => cases finite
  | finite negative magnitude =>
      rcases Binary64.exists_laid_display negative magnitude with
        ⟨shown, body, display, laid, _⟩
      rw [display]
      cases shown with
      | false => exact of_laid laid
      | true =>
          have keyedMinus : Keyed ['-'] :=
            of_typed fun character member => by
              rw [List.mem_singleton.mp member]
              rfl
          exact keyedMinus.append (of_laid laid)

/-- No character of such an expression is foreign. -/
theorem not_foreign
    {before after : Text}
    {character : Char}
    (keyed : Keyed expression)
    (split : expression = before ++ character :: after) :
    isForeign before character = false := by
  rcases keyed before character after split with typed | ⟨rfl, digit⟩
  · exact Key.not_foreign_of_isTyped typed before
  · have number : before.getLast?.any isNumberCharacter = true := by
      cases last : before.getLast? with
      | none =>
          rw [last] at digit
          cases digit
      | some character =>
          rw [last] at digit
          exact isNumberCharacter_of_isDigit digit
    rw [isForeign, number]
    rfl

/-- Evaluating such an expression does not fail for an unexpected character. -/
theorem cause_of_failure
    {cause : FailureCause}
    {notices : List Notice}
    (keyed : Keyed expression)
    (failed : evaluate expression = .ok (.failure cause, notices)) :
    (∃ characters, cause = .unreadable (.invalidNumber characters)) ∨
      (∃ operators numbers, cause = .unbalanced operators numbers) ∨
        (∃ value symbol, cause = .divisionByZero value symbol) ∨
          cause = .arithmetic .infiniteDividend := by
  rcases cause_of_evaluate failed with ⟨fault, refused, rfl⟩ | other
  · left
    rcases fault_of_tokenize refused with
      ⟨characters, rfl⟩ | ⟨character, rfl⟩
    · exact ⟨characters, rfl⟩
    · rcases exists_foreign_of_unexpected refused with
        ⟨before, foreign, after, split, isForeign⟩
      rw [keyed.not_foreign split] at isForeign
      cases isForeign
  · exact Or.inr other

end Keyed

/-! ## One key -/

/--
The number that a key writes into the expression, if it does: the result of an
evaluation or a number with its sign changed.
-/
def State.formatted? (state : State) (token : Text) : Option Binary64 :=
  match state.outcome? token with
  | some (.value number) => some number
  | some (.failure _) => none
  | none =>
      if Control.ofToken? token = some .toggleSign then state.toggled?
      else none

/-- A key that does not fail and writes no name of a number keeps it so. -/
theorem KeyEffect.keyed
    {errorText token : Text}
    {state : State}
    {following : State × List Notice}
    (effect : KeyEffect errorText token state following)
    (keyed : Keyed state.expression)
    (succeeds : state.failure? token = none)
    (finite : (state.formatted? token).all Binary64.isFinite = true) :
    Keyed following.1.expression := by
  cases effect with
  | @recorded number notices entry means typed fresh evaluated _ _ =>
      rw [State.formatted?,
        State.outcome?_of_evaluate means typed fresh evaluated] at finite
      exact Keyed.of_display finite
  | failed means typed fresh evaluated =>
      rw [State.failure?,
        State.outcome?_of_evaluate means typed fresh evaluated] at succeeds
      cases succeeds
  | idle => exact keyed
  | cleared => exact Keyed.of_typed nofun
  | shortened =>
      rw [State.backspace]
      split
      · exact keyed
      · rename_i nonempty
        rw [← List.dropLast_concat_getLast nonempty] at keyed
        exact keyed.of_prefix
  | toggled means =>
      rcases state.toggleSign_cases with
        ⟨same, _⟩ | ⟨before, run, value, ends⟩
      · rw [same]
        exact keyed
      · rw [State.formatted?, State.outcome?_of_token means (by decide)] at finite
        dsimp only at finite
        rw [if_pos means, ends.toggled?_eq] at finite
        rw [ends.toggleSign_eq]
        rw [ends.split] at keyed
        exact keyed.of_prefix.append (Keyed.of_display finite)
  | begun number =>
      rcases Key.exists_numberRow_of_isNumber number with
        ⟨character, rfl, _⟩
      refine Keyed.of_typed fun other member => ?_
      rw [List.mem_singleton.mp member]
      exact Key.isTyped_of_isNumber number
  | continued typed =>
      apply keyed.append
      rcases Key.exists_of_isTyped typed with ⟨character, rfl, _⟩
      refine Keyed.of_typed fun other member => ?_
      rw [List.mem_singleton.mp member]
      exact typed
  | unknown => exact keyed

/-! ## Runs of keys -/

/-- No key of a run fails, and every number that the keys write is finite. -/
def State.Sound (errorText : Text) (state : State) : List Text → Prop
  | [] => True
  | token :: rest =>
      state.failure? token = none ∧
        (state.formatted? token).all Binary64.isFinite = true ∧
          (state.pressed token errorText).1.Sound errorText rest

instance State.decidableSound (errorText : Text) :
    (state : State) → (keys : List Text) →
      Decidable (state.Sound errorText keys)
  | _, [] => inferInstanceAs (Decidable True)
  | state, token :: rest =>
      have := decidableSound errorText (state.pressed token errorText).1 rest
      inferInstanceAs (Decidable (_ ∧ _ ∧ _))

theorem State.Sound.keyed
    {state : State}
    {errorText : Text}
    {keys : List Text}
    (sound : state.Sound errorText keys)
    (keyed : Keyed state.expression) :
    Keyed (state.pressedAll errorText keys).1.expression := by
  induction keys generalizing state with
  | nil => exact keyed
  | cons key keys ih =>
      rcases sound with ⟨succeeds, finite, others⟩
      rw [pressedAll_cons]
      apply ih others
      exact (keyEffect_pressed state key errorText).keyed keyed succeeds finite

/--
Keys alone build no foreign characters.  As long as no key of a fresh session
has failed and every number written so far was finite, the expression has only
digits, points and the characters of operator keys, and exponent marks that
stand directly behind a digit.  If the next key then fails, it does so for
characters that are no number, for operators that do not match the numbers, for
a division by zero or for the remainder of an infinite number, and not for an
unexpected character.
-/
theorem keys_build_no_foreign_characters
    {settings : Settings}
    {keys : List Text}
    (sound : ({} : State).Sound settings.errorText keys) :
    let fresh : Session := { settings := settings }
    let reached : State := (fresh.pressAll keys).1.state
    Keyed reached.expression ∧
      ∀ token cause,
        reached.outcome? token = some (.failure cause) →
          (∃ characters, cause = .unreadable (.invalidNumber characters)) ∨
            (∃ operators numbers, cause = .unbalanced operators numbers) ∨
              (∃ value symbol, cause = .divisionByZero value symbol) ∨
                cause = .arithmetic .infiniteDividend := by
  intro fresh reached
  have keyed : Keyed reached.expression := sound.keyed (Keyed.of_typed nofun)
  refine ⟨keyed, fun token cause fails => ?_⟩
  rcases State.exists_outcome?_iff.mp ⟨_, fails⟩ with ⟨means, typed, isFresh⟩
  rcases evaluate_ok reached.expression with ⟨outcome, notices, evaluated⟩
  rw [State.outcome?_of_evaluate means typed isFresh evaluated] at fails
  cases fails
  exact keyed.cause_of_failure evaluated

/-- The result 1.25e-05 without its last two digits is no number any more. -/
theorem keys_build_no_foreign_characters_behind_exponent_mark :
    let settings : Settings := {}
    let keys : List Text :=
      [['1'], ['÷'], ['8'], ['0'], ['0'], ['0'], ['0'], ['='], ['←'], ['←']]
    let reached : State :=
      (({ settings := settings } : Session).pressAll keys).1.state
    ({} : State).Sound settings.errorText keys ∧
      reached.expression = "1.25e-" ∧
        Keyed reached.expression ∧
          ∃ characters,
            reached.outcome? ['='] =
              some (.failure (.unreadable (.invalidNumber characters))) := by
  intro settings keys reached
  have sound : ({} : State).Sound settings.errorText keys := by decide +kernel
  have fails :
      reached.outcome? ['='] =
        some (.failure (.unreadable (.invalidNumber "1.25e-"))) := by
    decide +kernel
  have keyed := (keys_build_no_foreign_characters sound).1
  exact ⟨sound, by decide +kernel, keyed, _, fails⟩

end PocketCalc
