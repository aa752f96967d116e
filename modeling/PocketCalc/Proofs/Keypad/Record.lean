import Mathlib.Data.List.Forall2
import Mathlib.Data.List.Induction
import PocketCalc.Proofs.Keypad.KeyEffect

/-!
# The history is a record of the calculations

A key completes a calculation when it is an equals key that finds an expression
which is no answer and evaluates it to a value.  Such a key puts one
calculation in front of the history, and no other key touches the history.

Over a whole run the calculations, the oldest first, belong one by one to the
places of the completing keys in their order.  The main theorem says this of
every fresh session and every sequence of keys, and with it that the history
only grows at its front and that each of its expressions still evaluates to
the result beside it.
-/

namespace PocketCalc

/-- Evaluating the expression of a calculation comes to its result. -/
def Calculation.Reproducible (entry : Calculation) : Prop :=
  ∃ number notices,
    evaluate entry.expression = .ok (.value number, notices) ∧
      entry.result = number.display

/-- The key with a token evaluates the expression of a state to a calculation. -/
structure State.Completes
    (state : State)
    (token : Text)
    (entry : Calculation) : Prop where
  means : Control.ofToken? token = some .equals
  typed : state.expression ≠ []
  fresh : state.justEvaluated = false
  expression : entry.expression = state.expression
  reproducible : entry.Reproducible

/-! ## One key -/

namespace State

/-- Exactly the keys complete a calculation whose evaluation has a value. -/
theorem exists_completes_iff
    {state : State}
    {token : Text} :
    (∃ entry, state.Completes token entry) ↔
      ∃ number, state.outcome? token = some (.value number) := by
  constructor
  · rintro ⟨entry, completes⟩
    rcases completes.reproducible with ⟨number, notices, evaluated, _⟩
    rw [completes.expression] at evaluated
    exact
      ⟨number,
        outcome?_of_evaluate completes.means completes.typed completes.fresh
          evaluated⟩
  · rintro ⟨number, evaluates⟩
    rcases exists_outcome?_iff.mp ⟨_, evaluates⟩ with ⟨means, typed, fresh⟩
    rcases evaluate_ok state.expression with ⟨outcome, notices, evaluated⟩
    rw [outcome?_of_evaluate means typed fresh evaluated] at evaluates
    cases evaluates
    exact
      ⟨⟨state.expression, number.display, typed, number.display_ne_nil⟩,
        { means := means
          typed := typed
          fresh := fresh
          expression := rfl
          reproducible := ⟨number, notices, evaluated, rfl⟩ }⟩

theorem not_completes_of_failure
    {state : State}
    {token : Text}
    {cause : FailureCause}
    {notices : List Notice}
    (failed : evaluate state.expression = .ok (.failure cause, notices)) :
    ¬∃ entry, state.Completes token entry := by
  rintro ⟨entry, completes⟩
  rcases completes.reproducible with ⟨number, others, evaluated, _⟩
  rw [completes.expression, failed] at evaluated
  cases evaluated

/-- A key that evaluates nothing completes nothing. -/
theorem not_completes_of_idle
    {state : State}
    {token : Text}
    (idle : state.outcome? token = none) :
    ¬∃ entry, state.Completes token entry := by
  rw [exists_completes_iff, idle]
  rintro ⟨number, evaluates⟩
  cases evaluates

end State

/-- A key puts the calculation that it completes in front, or keeps the history. -/
theorem KeyEffect.history
    {errorText token : Text}
    {state : State}
    {following : State × List Notice}
    (effect : KeyEffect errorText token state following) :
    (∃ entry,
        state.Completes token entry ∧
          following.1.history = entry :: state.history) ∨
      ((¬∃ entry, state.Completes token entry) ∧
        following.1.history = state.history) := by
  cases effect with
  | @recorded number notices entry means typed fresh evaluated expression result =>
      left
      refine ⟨entry, ⟨means, typed, fresh, expression, ?_⟩, rfl⟩
      refine ⟨number, notices, ?_, result⟩
      rw [expression]
      exact evaluated
  | failed means typed fresh evaluated =>
      exact Or.inr ⟨State.not_completes_of_failure evaluated, rfl⟩
  | idle means nothing =>
      exact
        Or.inr
          ⟨State.not_completes_of_idle (State.outcome?_of_idle nothing), rfl⟩
  | cleared means =>
      have idle : state.outcome? token = none :=
        State.outcome?_of_token means (by simp)
      exact Or.inr ⟨State.not_completes_of_idle idle, rfl⟩
  | shortened means =>
      have idle : state.outcome? token = none :=
        State.outcome?_of_token means (by simp)
      exact Or.inr ⟨State.not_completes_of_idle idle, state.backspace_history⟩
  | toggled means =>
      have idle : state.outcome? token = none :=
        State.outcome?_of_token means (by simp)
      exact Or.inr ⟨State.not_completes_of_idle idle, state.toggleSign_history⟩
  | begun number answered =>
      have idle : state.outcome? token = none :=
        State.outcome?_of_typed (Key.isTyped_of_isNumber number)
      exact Or.inr ⟨State.not_completes_of_idle idle, rfl⟩
  | continued typed goesOn =>
      have idle : state.outcome? token = none :=
        State.outcome?_of_typed typed
      exact Or.inr ⟨State.not_completes_of_idle idle, rfl⟩
  | unknown noControl untyped =>
      have idle : state.outcome? token = none :=
        State.outcome?_of_token noControl (by simp)
      exact Or.inr ⟨State.not_completes_of_idle idle, rfl⟩

/-! ## Runs of keys -/

namespace State

/-- The key at a place of a run completes a calculation. -/
def CompletesAt
    (start : State)
    (errorText : Text)
    (keys : List Text)
    (place : Nat)
    (entry : Calculation) : Prop :=
  ∃ key,
    keys[place]? = some key ∧
      (start.pressedAll errorText (keys.take place)).1.Completes key entry

/--
The places of all keys of a run that complete a calculation, in their order,
and the calculations that belong to them one by one.
-/
structure Chronicle
    (start : State)
    (errorText : Text)
    (keys : List Text)
    (places : List Nat)
    (entries : List Calculation) : Prop where
  increasing : places.Pairwise (· < ·)
  mem_iff :
    ∀ place,
      place ∈ places ↔ ∃ entry, start.CompletesAt errorText keys place entry
  matched :
    List.Forall₂ (start.CompletesAt errorText keys) places entries

variable
  {start : State}
  {errorText key : Text}
  {keys : List Text}
  {place : Nat}
  {places : List Nat}
  {entry : Calculation}
  {entries : List Calculation}

theorem CompletesAt.place_lt
    (completes : start.CompletesAt errorText keys place entry) :
    place < keys.length := by
  rcases completes with ⟨key, pressed, _⟩
  exact (List.getElem?_eq_some_iff.mp pressed).1

/-- What a key completes does not depend on the keys after it. -/
theorem completesAt_append_iff
    (inside : place < keys.length)
    (after : List Text) :
    start.CompletesAt errorText (keys ++ after) place entry ↔
      start.CompletesAt errorText keys place entry := by
  rw [CompletesAt, CompletesAt, List.getElem?_append_left inside,
    List.take_append_of_le_length (Nat.le_of_lt inside)]

theorem completesAt_last_iff :
    start.CompletesAt errorText (keys ++ [key]) keys.length entry ↔
      (start.pressedAll errorText keys).1.Completes key entry := by
  rw [CompletesAt, List.getElem?_concat_length, List.take_left]
  constructor
  · rintro ⟨last, same, completes⟩
    cases same
    exact completes
  · intro completes
    exact ⟨key, rfl, completes⟩

/-- One more key completes something at an earlier place or at its own. -/
theorem exists_completesAt_concat_iff :
    (∃ entry, start.CompletesAt errorText (keys ++ [key]) place entry) ↔
      (∃ entry, start.CompletesAt errorText keys place entry) ∨
        (place = keys.length ∧
          ∃ entry, (start.pressedAll errorText keys).1.Completes key entry) := by
  constructor
  · rintro ⟨entry, completes⟩
    have inside := completes.place_lt
    rw [List.length_append, List.length_singleton,
      Nat.lt_succ_iff_lt_or_eq] at inside
    rcases inside with earlier | rfl
    · exact Or.inl ⟨entry, (completesAt_append_iff earlier _).mp completes⟩
    · exact Or.inr ⟨rfl, entry, completesAt_last_iff.mp completes⟩
  · rintro (⟨entry, completes⟩ | ⟨rfl, entry, completes⟩)
    · exact
        ⟨entry, (completesAt_append_iff completes.place_lt _).mpr completes⟩
    · exact ⟨entry, completesAt_last_iff.mpr completes⟩

theorem chronicle_nil : start.Chronicle errorText [] [] [] where
  increasing := .nil
  mem_iff := by
    intro place
    constructor
    · intro member
      cases member
    · rintro ⟨entry, completes⟩
      exact absurd completes.place_lt (Nat.not_lt_zero _)
  matched := .nil

theorem Chronicle.matched_append
    (chronicle : start.Chronicle errorText keys places entries)
    (after : List Text) :
    List.Forall₂ (start.CompletesAt errorText (keys ++ after))
      places entries := by
  apply chronicle.matched.imp
  intro place entry completes
  exact (completesAt_append_iff completes.place_lt _).mpr completes

/-- A key that completes nothing leaves no trace. -/
theorem Chronicle.concat_of_not_completes
    (chronicle : start.Chronicle errorText keys places entries)
    (nothing :
      ¬∃ entry, (start.pressedAll errorText keys).1.Completes key entry) :
    start.Chronicle errorText (keys ++ [key]) places entries where
  increasing := chronicle.increasing
  mem_iff := by
    intro place
    rw [exists_completesAt_concat_iff, chronicle.mem_iff]
    constructor
    · exact Or.inl
    · rintro (earlier | ⟨_, completes⟩)
      · exact earlier
      · exact absurd completes nothing
  matched := chronicle.matched_append [key]

/-- A key that completes a calculation adds it, with its own place. -/
theorem Chronicle.concat_of_completes
    (chronicle : start.Chronicle errorText keys places entries)
    (completes : (start.pressedAll errorText keys).1.Completes key entry) :
    start.Chronicle errorText (keys ++ [key])
      (places ++ [keys.length]) (entries ++ [entry]) where
  increasing := by
    rw [List.pairwise_append]
    refine ⟨chronicle.increasing, List.pairwise_singleton _ _, ?_⟩
    intro place member last isLast
    rcases (chronicle.mem_iff place).mp member with ⟨earlier, completed⟩
    rw [List.mem_singleton.mp isLast]
    exact completed.place_lt
  mem_iff := by
    intro place
    rw [exists_completesAt_concat_iff, ← chronicle.mem_iff, List.mem_append,
      List.mem_singleton]
    constructor
    · rintro (earlier | last)
      · exact Or.inl earlier
      · exact Or.inr ⟨last, entry, completes⟩
    · rintro (earlier | ⟨last, _⟩)
      · exact Or.inl earlier
      · exact Or.inr last
  matched :=
    List.rel_append (chronicle.matched_append [key])
      (.cons (completesAt_last_iff.mpr completes) .nil)

/-- The history after one more key. -/
theorem history_concat
    (start : State)
    (errorText : Text)
    (keys : List Text)
    (key : Text) :
    let before := (start.pressedAll errorText keys).1
    let after := (start.pressedAll errorText (keys ++ [key])).1
    (∃ entry,
        before.Completes key entry ∧
          after.history = entry :: before.history) ∨
      ((¬∃ entry, before.Completes key entry) ∧
        after.history = before.history) := by
  intro before after
  have last : after = (before.pressed key errorText).1 :=
    pressedAll_append errorText keys [key]
  rw [last]
  exact (keyEffect_pressed before key errorText).history

/--
A run puts the chronicle of its keys, the newest first, before the history.  The
last key is the one whose calculation stands in front, so keys are taken away at
the end.
-/
theorem exists_chronicle
    (start : State)
    (errorText : Text)
    (keys : List Text) :
    ∃ places entries,
      start.Chronicle errorText keys places entries ∧
        (start.pressedAll errorText keys).1.history =
          entries.reverse ++ start.history := by
  induction keys using List.reverseRecOn with
  | nil => exact ⟨[], [], chronicle_nil, rfl⟩
  | append_singleton keys key ih =>
      rcases ih with ⟨places, entries, chronicle, history⟩
      rcases history_concat start errorText keys key with
        ⟨entry, completes, added⟩ | ⟨nothing, kept⟩
      · refine
          ⟨_, _, chronicle.concat_of_completes completes, ?_⟩
        rw [added, history, List.reverse_append, List.reverse_singleton,
          List.singleton_append, List.cons_append]
      · exact
          ⟨_, _, chronicle.concat_of_not_completes nothing, kept.trans history⟩

/-- A run keeps the history that it found behind what it adds. -/
theorem history_suffix (start : State) (errorText : Text) (keys : List Text) :
    start.history <:+ (start.pressedAll errorText keys).1.history := by
  rcases exists_chronicle start errorText keys with
    ⟨_, entries, _, history⟩
  exact ⟨entries.reverse, history.symm⟩

theorem Chronicle.reproducible
    (chronicle : start.Chronicle errorText keys places entries)
    (member : entry ∈ entries) :
    entry.Reproducible := by
  rcases List.getElem_of_mem member with ⟨index, inside, rfl⟩
  have paired := chronicle.matched
  rw [List.forall₂_iff_get] at paired
  have placed : index < places.length := by
    rw [paired.1]
    exact inside
  rcases paired.2 index placed inside with ⟨_, _, completes⟩
  exact completes.reproducible

end State

/--
The history of a fresh session is the record of its completing keys.  The
entries, the oldest first, belong one by one to the places of these keys in
increasing order; each key puts the calculation that it completes in front and
otherwise keeps the history; an earlier history is the end of every later one;
and each entry is reproduced by evaluating its expression again.
-/
theorem history_records_completing_keys
    (settings : Settings)
    (keys : List Text) :
    let fresh : Session := { settings := settings }
    let after (pressed : List Text) : State := (fresh.pressAll pressed).1.state
    (∃ places : List Nat,
        fresh.state.Chronicle settings.errorText keys places
          (after keys).history.reverse) ∧
      (∀ before key rest,
        keys = before ++ key :: rest →
          (∃ entry,
              (after before).Completes key entry ∧
                (after (before ++ [key])).history =
                  entry :: (after before).history) ∨
            ((¬∃ entry, (after before).Completes key entry) ∧
              (after (before ++ [key])).history = (after before).history)) ∧
      (∀ earlier later,
        keys = earlier ++ later →
          (after earlier).history <:+ (after keys).history) ∧
      (∀ entry ∈ (after keys).history, entry.Reproducible) := by
  intro fresh after
  rcases
      State.exists_chronicle fresh.state settings.errorText keys with
    ⟨places, entries, chronicle, recorded⟩
  have history : (after keys).history = entries.reverse :=
    recorded.trans (List.append_nil _)
  refine ⟨⟨places, ?_⟩, ?_, ?_, ?_⟩
  · rw [history, List.reverse_reverse]
    exact chronicle
  · intro before key _ _
    exact State.history_concat fresh.state settings.errorText before key
  · rintro earlier later rfl
    have ended :
        after (earlier ++ later) =
          ((after earlier).pressedAll settings.errorText later).1 :=
      State.pressedAll_append settings.errorText earlier later
    rw [ended]
    exact State.history_suffix (after earlier) settings.errorText later
  · intro entry member
    rw [history, List.mem_reverse] at member
    exact chronicle.reproducible member

/-- Of four equals keys the repeated one and the failed one record nothing. -/
theorem history_records_two_of_four_equals :
    let settings : Settings := {}
    let keys : List Text :=
      [['2'], ['+'], ['3'], ['='], ['='], ['÷'], ['0'], ['='], ['4'], ['=']]
    let last := (({ settings := settings } : Session).pressAll keys).1.state
    last.history.lines = ["4 = 4", "2+3 = 5"] ∧
      ∀ entry ∈ last.history, entry.Reproducible := by
  intro settings keys last
  rcases history_records_completing_keys settings keys with
    ⟨_, _, _, reproducible⟩
  constructor
  · decide +kernel
  · exact reproducible

end PocketCalc
