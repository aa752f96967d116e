import PocketCalc.Proofs.Keypad.Alphabet
import PocketCalc.Proofs.Keypad.Record

/-!
# The characters on the display

A key types one character, writes a number or shows the text for errors, and the
edits only take characters away.  So the display never has a character that is
neither on a key, nor in the text of a number, nor in the text for errors.

An expression that has a value is made of fewer characters, and so are the
calculations of the history: neither blanks nor equals signs are among them.  A
line of the history is therefore cut into expression and result in one way only.
-/

namespace PocketCalc

/-- The characters of the keys that type and of the texts of numbers. -/
def displayCharacters : Text :=
  Key.numberRow ++ Key.operatorRow ++ ['a', 'e', 'f', 'i', 'n']

/-! ## Expressions and displays -/

theorem Key.subset_of_isTyped
    {token : Text}
    (typed : isTyped token = true) :
    token ⊆ displayCharacters := by
  rcases exists_of_isTyped typed with ⟨character, rfl, member⟩
  rw [List.cons_subset]
  exact ⟨List.mem_append_left _ member, List.nil_subset _⟩

theorem Keyed.subset
    {expression : Text}
    (keyed : Keyed expression) :
    expression ⊆ displayCharacters := by
  intro character member
  rcases List.append_of_mem member with ⟨before, after, split⟩
  rcases keyed before character after split with typed | ⟨rfl, _⟩
  · exact Key.subset_of_isTyped typed (List.mem_singleton_self character)
  · decide

theorem Binary64.display_subset (number : Binary64) :
    number.display ⊆ displayCharacters := by
  cases number with
  | nan => decide
  | infinite negative => cases negative <;> decide
  | finite negative magnitude => exact (Keyed.of_display rfl).subset

/-- An expression has characters of the display and of the text for errors. -/
def State.IsShowable (errorText : Text) (state : State) : Prop :=
  state.expression ⊆ displayCharacters ++ errorText

section Showable

variable
  {errorText : Text}
  {state : State}

/-- What a key writes is showable; everything else was there before. -/
theorem KeyEffect.isShowable
    {token : Text}
    {following : State × List Notice}
    (effect : KeyEffect errorText token state following)
    (showable : state.IsShowable errorText) :
    following.1.IsShowable errorText := by
  have numbers (number : Binary64) :
      number.display ⊆ displayCharacters ++ errorText :=
    List.subset_append_of_subset_left _ number.display_subset
  have keys (typed : Key.isTyped token = true) :
      token ⊆ displayCharacters ++ errorText :=
    List.subset_append_of_subset_left _ (Key.subset_of_isTyped typed)
  cases effect with
  | @recorded number => exact numbers number
  | failed => exact List.subset_append_right _ _
  | idle => exact showable
  | cleared => exact List.nil_subset _
  | shortened =>
      rw [State.backspace]
      split
      · exact showable
      · exact List.Subset.trans (List.dropLast_subset _) showable
  | toggled =>
      rcases state.toggleSign_cases with ⟨same, _⟩ | ⟨before, run, value, ends⟩
      · rw [same]
        exact showable
      · rw [State.IsShowable, ends.split] at showable
        rw [ends.toggleSign_eq]
        exact
          List.append_subset.mpr
            ⟨(List.append_subset.mp showable).1, numbers value.neg⟩
  | begun number => exact keys (Key.isTyped_of_isNumber number)
  | continued typed => exact List.append_subset.mpr ⟨showable, keys typed⟩
  | unknown => exact showable

theorem State.IsShowable.pressedAll
    (showable : state.IsShowable errorText)
    (keys : List Text) :
    (state.pressedAll errorText keys).1.IsShowable errorText := by
  induction keys generalizing state with
  | nil => exact showable
  | cons key keys ih =>
      rw [pressedAll_cons]
      exact ih ((state.keyEffect_pressed key errorText).isShowable showable)

theorem State.IsShowable.display_subset
    (showable : state.IsShowable errorText) :
    state.display ⊆ displayCharacters ++ errorText := by
  rw [State.display]
  split
  · rw [List.cons_subset]
    exact ⟨List.mem_append_left _ (by decide), List.nil_subset _⟩
  · exact showable

end Showable

/-- The display of a session that began without an expression. -/
theorem Session.display_subset (settings : Settings) (keys : List Text) :
    (({ settings := settings } : Session).pressAll keys).1.display ⊆
      displayCharacters ++ settings.errorText := by
  have fresh : ({} : State).IsShowable settings.errorText := List.nil_subset _
  exact (fresh.pressedAll keys).display_subset

/-! ## Calculations -/

/-- An expression that has a value has only characters of expressions. -/
theorem isExpressionCharacter_of_evaluate
    {expression : Text}
    {number : Binary64}
    {notices : List Notice}
    {character : Char}
    (evaluated : evaluate expression = .ok (.value number, notices))
    (member : character ∈ expression) :
    isExpressionCharacter character = true := by
  rw [← Bool.not_eq_false]
  intro unknown
  rcases List.append_of_mem member with ⟨before, after, rfl⟩
  have foreign :
      foreignAt (before ++ character :: after) before.length = true := by
    rw [foreignAt, List.getElem?_append_right (Nat.le_refl _), Nat.sub_self,
      List.take_left, List.getElem?_cons_zero, Option.any_some, isForeign,
      unknown]
    rfl
  rcases Spoils.evaluate_unreadable foreign (List.take_prefix _ _) with
    ⟨fault, failed⟩
  rw [evaluated] at failed
  cases failed

namespace Calculation

variable {entry : Calculation}

theorem Reproducible.separator_notMem
    {separator : Char}
    (reproducible : entry.Reproducible)
    (separates : separator ∈ [' ', '=', '\n']) :
    separator ∉ entry.expression ∧ separator ∉ entry.result := by
  rcases reproducible with ⟨number, notices, evaluated, result⟩
  constructor
  · intro member
    have unknown : [' ', '=', '\n'].any isExpressionCharacter = false := rfl
    rw [List.any_eq_false] at unknown
    exact
      unknown separator separates
        (isExpressionCharacter_of_evaluate evaluated member)
  · intro member
    have apart : [' ', '=', '\n'].any displayCharacters.contains = false := rfl
    rw [List.any_eq_false] at apart
    rw [result] at member
    exact
      apart separator separates
        (List.contains_iff_mem.mpr (number.display_subset member))

/-- The line of a calculation is cut into its texts in one way only. -/
theorem Reproducible.line_eq_iff
    (reproducible : entry.Reproducible)
    (before after : Text) :
    entry.line = before ++ [' ', '=', ' '] ++ after ↔
      before = entry.expression ∧ after = entry.result := by
  have apart : '=' ∉ entry.expression ∧ '=' ∉ entry.result :=
    reproducible.separator_notMem (by decide)
  have atSign (left right : Text) :
      left ++ [' ', '=', ' '] ++ right =
        (left ++ [' ']) ++ '=' :: ' ' :: right := by
    rw [List.append_assoc, List.append_assoc]
    rfl
  constructor
  · intro same
    rw [line, atSign, atSign,
      List.append_cons_inj_of_notMem (by simp [apart.1])
        (by simp [apart.2])] at same
    rcases same with ⟨front, _, back⟩
    exact
      ⟨(List.append_cancel_right front).symm, (List.cons.inj back).2.symm⟩
  · rintro ⟨rfl, rfl⟩
    rfl

end Calculation

/-- Calculations of a session that began without any are reproducible. -/
theorem State.reproducible_of_mem_history
    {errorText : Text}
    {keys : List Text}
    {entry : Calculation}
    (member : entry ∈ (({} : State).pressedAll errorText keys).1.history) :
    entry.Reproducible := by
  rcases exists_chronicle {} errorText keys with
    ⟨_, entries, chronicle, history⟩
  rw [history, List.append_nil, List.mem_reverse] at member
  exact chronicle.reproducible member

/-- Calculations that can be repeated are determined by their lines. -/
theorem History.eq_of_lines_eq
    {history other : History}
    (reproducible : ∀ entry ∈ history, entry.Reproducible)
    (same : history.lines = other.lines) :
    history = other := by
  induction history generalizing other with
  | nil =>
      rw [List.map_eq_nil_iff.mp same.symm]
  | cons entry history ih =>
      rcases List.forall_mem_cons.mp reproducible with ⟨first, others⟩
      rcases List.map_eq_cons_iff.mp same.symm with
        ⟨otherEntry, otherHistory, rfl, sameLine, sameLines⟩
      rcases (first.line_eq_iff _ _).mp sameLine.symm with
        ⟨expression, result⟩
      have sameEntry : entry = otherEntry := by
        cases entry
        cases otherEntry
        cases expression
        cases result
        rfl
      rw [sameEntry, ih others sameLines.symm]

end PocketCalc
