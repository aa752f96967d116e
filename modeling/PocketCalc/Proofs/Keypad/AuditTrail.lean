import Mathlib.Data.List.Basic
import PocketCalc.Proofs.Keypad.KeyEffect
import PocketCalc.Proofs.Log.Lines

/-!
# The log is an audit trail of the session

A key tells at most one thing above the level `debug`: it reports a calculation
when it adds one to the history, and it warns when an evaluation fails or the
key does not exist.  The history puts new calculations in front while the log
goes on at its end, so over a whole run the reports of the log are the new lines
of the history in reverse.
-/

namespace PocketCalc

/-! ## Notices for debugging -/

namespace Notice

/-- The notices are for debugging only. -/
def Quiet (notices : List Notice) : Prop :=
  ∀ notice ∈ notices, notice.level = .debug

theorem quiet_nil : Quiet [] := by
  simp [Quiet]

theorem quiet_singleton
    {notice : Notice}
    (debugging : notice.level = .debug) :
    Quiet [notice] := by
  simpa [Quiet] using debugging

theorem Quiet.filter_level
    {notices : List Notice}
    (quiet : Quiet notices)
    (level : Level)
    (aloud : level ≠ .debug := by decide) :
    notices.filter (fun notice => level = notice.level) = [] := by
  rw [List.filter_eq_nil_iff]
  intro notice member
  rw [quiet notice member]
  simpa using aloud

end Notice

theorem evaluate_quiet
    {expression : Text}
    {outcome : Outcome}
    {notices : List Notice}
    (evaluated : evaluate expression = .ok (outcome, notices)) :
    Notice.Quiet notices := by
  rw [evaluate] at evaluated
  split at evaluated
  · cases evaluated
    exact Notice.quiet_nil
  · split at evaluated
    · cases evaluated
      exact Notice.quiet_singleton rfl
    · cases evaluated

theorem State.toggleSign_quiet (state : State) :
    Notice.Quiet state.toggleSign.2 := by
  rw [toggleSign]
  split
  · exact Notice.quiet_nil
  · split
    · exact Notice.quiet_nil
    · split
      · exact Notice.quiet_singleton rfl
      · exact Notice.quiet_nil

/-! ## One key -/

/-- Whether a key does not exist. -/
def Key.isUnknown (token : Text) : Bool :=
  (Control.ofToken? token).isNone && !isTyped token

theorem Key.isUnknown_of_control
    {token : Text}
    {control : Control}
    (means : Control.ofToken? token = some control) :
    isUnknown token = false := by
  rw [isUnknown, means]
  rfl

theorem Key.isUnknown_of_typed
    {token : Text}
    (typed : isTyped token = true) :
    isUnknown token = false := by
  rw [isUnknown, typed, Bool.not_true, Bool.and_false]

namespace State

/-- The warning that a key gives in a state, if it gives one. -/
def warning? (state : State) (token : Text) : Option Notice :=
  match state.outcome? token with
  | some (.failure cause) => some (.notEvaluated state.expression cause)
  | some (.value _) => none
  | none => if Key.isUnknown token then some (.unknownKey token) else none

theorem warning?_of_known
    {state : State}
    {token : Text}
    (idle : state.outcome? token = none)
    (known : Key.isUnknown token = false) :
    state.warning? token = none := by
  rw [warning?, idle, known]
  rfl

/-- A key warns of a failure or of a key that does not exist, never of both. -/
theorem warning?_count (state : State) (token : Text) :
    (if (state.warning? token).isSome then 1 else 0) =
      (if (state.failure? token).isSome then 1 else 0) +
        if Key.isUnknown token then 1 else 0 := by
  rw [warning?, failure?]
  cases evaluates : state.outcome? token with
  | none => cases Key.isUnknown token <;> rfl
  | some outcome =>
      have known : Key.isUnknown token = false :=
        Key.isUnknown_of_control (exists_outcome?_iff.mp ⟨_, evaluates⟩).1
      rw [known]
      cases outcome <;> rfl

end State

/-- A notice for each calculation that was added, in the given order. -/
def Calculation.reports (added : List Calculation) : List Notice :=
  added.map fun entry => .evaluated entry.expression entry.result

theorem Calculation.message_reports (added : List Calculation) :
    (reports added).map Notice.message =
      (added.map line).map ("🧮✅ ".toList ++ ·) := by
  rw [reports, List.map_map, List.map_map]
  apply List.map_congr_left
  intro entry _
  have message :
      (Notice.evaluated entry.expression entry.result).message =
        "🧮✅ ".toList ++ entry.expression ++ [' ', '=', ' '] ++
          entry.result :=
    rfl
  rw [Function.comp_apply, Function.comp_apply, message, line,
    List.append_assoc, List.append_assoc, List.append_assoc]

/--
What a key has added to the history, and which notices above `debug` it has
given: the report of the new calculation or its warning, never both.
-/
structure Audited
    (state : State)
    (token : Text)
    (following : State × List Notice)
    (entry : Option Calculation) : Prop where
  history : following.1.history = entry.toList ++ state.history
  reports :
    following.2.filter (fun notice => Level.info = notice.level) =
      Calculation.reports entry.toList
  warnings :
    following.2.filter (fun notice => Level.warning = notice.level) =
      (state.warning? token).toList
  apart : entry = none ∨ state.warning? token = none

/-- A key that does not evaluate and gives no notice above `debug`. -/
theorem audited_of_quiet
    {state : State}
    {token : Text}
    {following : State × List Notice}
    (kept : following.1.history = state.history)
    (quiet : Notice.Quiet following.2)
    (silent : state.warning? token = none) :
    Audited state token following none where
  history := kept
  reports := quiet.filter_level .info
  warnings := by
    rw [silent]
    exact quiet.filter_level .warning
  apart := .inl rfl

theorem KeyEffect.exists_audited
    {errorText token : Text}
    {state : State}
    {following : State × List Notice}
    (effect : KeyEffect errorText token state following) :
    ∃ entry, Audited state token following entry := by
  have silentControl :
      ∀ {control : Control},
        Control.ofToken? token = some control →
          control ≠ .equals → state.warning? token = none := by
    intro control means other
    apply State.warning?_of_known
    · exact State.outcome?_of_token means (by simpa using other)
    · exact Key.isUnknown_of_control means
  have silentTyped :
      Key.isTyped token = true → state.warning? token = none := by
    intro typed
    exact
      State.warning?_of_known (State.outcome?_of_typed typed)
        (Key.isUnknown_of_typed typed)
  cases effect with
  | @recorded number notices entry means typed fresh evaluated expression result =>
      have silent : state.warning? token = none := by
        rw [State.warning?,
          State.outcome?_of_evaluate means typed fresh evaluated]
      have quiet := evaluate_quiet evaluated
      refine ⟨some entry, rfl, ?_, ?_, .inr silent⟩
      · rw [List.filter_append, quiet.filter_level .info, ← expression,
          ← result]
        rfl
      · rw [List.filter_append, quiet.filter_level .warning, silent]
        rfl
  | @failed cause notices means typed fresh evaluated =>
      have warned :
          state.warning? token =
            some (.notEvaluated state.expression cause) := by
        rw [State.warning?,
          State.outcome?_of_evaluate means typed fresh evaluated]
      have quiet := evaluate_quiet evaluated
      refine ⟨none, rfl, ?_, ?_, .inl rfl⟩
      · rw [List.filter_append, quiet.filter_level .info]
        rfl
      · rw [List.filter_append, quiet.filter_level .warning, warned]
        rfl
  | idle means nothing =>
      refine ⟨none, audited_of_quiet rfl Notice.quiet_nil ?_⟩
      exact
        State.warning?_of_known (State.outcome?_of_idle nothing)
          (Key.isUnknown_of_control means)
  | cleared means =>
      exact
        ⟨none,
          audited_of_quiet rfl Notice.quiet_nil (silentControl means (by decide))⟩
  | shortened means =>
      exact
        ⟨none,
          audited_of_quiet state.backspace_history Notice.quiet_nil
            (silentControl means (by decide))⟩
  | toggled means =>
      exact
        ⟨none,
          audited_of_quiet state.toggleSign_history state.toggleSign_quiet
            (silentControl means (by decide))⟩
  | begun number answered =>
      have typed := Key.isTyped_of_isNumber number
      exact ⟨none, audited_of_quiet rfl Notice.quiet_nil (silentTyped typed)⟩
  | continued typed goesOn =>
      exact ⟨none, audited_of_quiet rfl Notice.quiet_nil (silentTyped typed)⟩
  | unknown noControl untyped =>
      have unknown : Key.isUnknown token = true := by
        rw [Key.isUnknown, noControl, untyped]
        rfl
      have warned : state.warning? token = some (.unknownKey token) := by
        rw [State.warning?, State.outcome?_of_token noControl (by decide), unknown]
        rfl
      refine ⟨none, rfl, rfl, ?_, .inl rfl⟩
      rw [warned]
      rfl

/-! ## Runs of keys -/

namespace State

/-- What each key of a run meets: the state before it, beside its token. -/
def trail (state : State) (errorText : Text) : List Text → List (State × Text)
  | [] => []
  | token :: rest =>
      (state, token) :: (state.pressed token errorText).1.trail errorText rest

/-- A run gives the notices of its keys, one key after the other. -/
theorem pressedAll_notices (state : State) (errorText : Text) (keys : List Text) :
    (state.pressedAll errorText keys).2 =
      (state.trail errorText keys).flatMap fun met =>
        (met.1.pressed met.2 errorText).2 := by
  induction keys generalizing state with
  | nil => rfl
  | cons token rest ih =>
      rw [trail, List.flatMap_cons, ← ih]
      rfl

theorem map_snd_trail (state : State) (errorText : Text) (keys : List Text) :
    (state.trail errorText keys).map Prod.snd = keys := by
  induction keys generalizing state with
  | nil => rfl
  | cons token rest ih => rw [trail, List.map_cons, ih]

/-- The calculations that a run adds, and the reports of them. -/
theorem exists_added (state : State) (errorText : Text) (keys : List Text) :
    ∃ added : History,
      (state.pressedAll errorText keys).1.history = added ++ state.history ∧
        (state.pressedAll errorText keys).2.filter
            (fun notice => Level.info = notice.level) =
          Calculation.reports added.reverse := by
  induction keys generalizing state with
  | nil => exact ⟨[], rfl, rfl⟩
  | cons token rest ih =>
      rcases (keyEffect_pressed state token errorText).exists_audited with
        ⟨entry, audited⟩
      rcases ih (state.pressed token errorText).1 with
        ⟨added, history, reports⟩
      refine ⟨added ++ entry.toList, ?_, ?_⟩
      · rw [pressedAll_cons, history, audited.history, List.append_assoc]
      · have notices :
            (state.pressedAll errorText (token :: rest)).2 =
              (state.pressed token errorText).2 ++
                ((state.pressed token errorText).1.pressedAll errorText
                  rest).2 :=
          rfl
        have single : entry.toList.reverse = entry.toList := by
          cases entry <;> rfl
        rw [notices, List.filter_append, audited.reports, reports,
          List.reverse_append, single, Calculation.reports,
          Calculation.reports, Calculation.reports, List.map_append]

/-- The warnings of a run are those of its keys, in their order. -/
theorem pressedAll_warnings
    (state : State)
    (errorText : Text)
    (keys : List Text) :
    (state.pressedAll errorText keys).2.filter
        (fun notice => Level.warning = notice.level) =
      (state.trail errorText keys).filterMap fun met =>
        met.1.warning? met.2 := by
  have single (met : State × Text) :
      (met.1.pressed met.2 errorText).2.filter
          (fun notice => Level.warning = notice.level) =
        (met.1.warning? met.2).toList := by
    rcases (keyEffect_pressed met.1 met.2 errorText).exists_audited with
      ⟨entry, audited⟩
    exact audited.warnings
  rw [pressedAll_notices, List.filter_flatMap, List.filterMap_eq_flatMap_toList]
  congr 1
  funext met
  exact single met

/-- The keys that warn are those whose evaluation fails and those that do not exist. -/
theorem length_filterMap_warning? (met : List (State × Text)) :
    (met.filterMap fun one => one.1.warning? one.2).length =
      (met.countP fun one => (one.1.failure? one.2).isSome) +
        met.countP fun one => Key.isUnknown one.2 := by
  rw [List.length_filterMap_eq_countP]
  induction met with
  | nil => rfl
  | cons one met ih =>
      rw [List.countP_cons, List.countP_cons, List.countP_cons, ih,
        warning?_count]
      omega

end State

/--
The log is a faithful audit trail.  In the log of a run at `debug` the texts of
the level `info` are the lines of the calculations that the run has added, the
oldest first, behind the mark of a success; the texts of the level `warning` are
those of the failed evaluations and of the unknown keys, as the run meets them,
so there are as many as of both together.  No key gives more than one text of
these two levels.
-/
theorem log_audits_run (start : State) (errorText : Text) (keys : List Text) :
    let ended := start.pressedAll errorText keys
    let log := Notice.log .debug ended.2
    let trail := start.trail errorText keys
    (∃ added : History,
        ended.1.history = added ++ start.history ∧
          Level.info.texts log =
            (History.lines added).reverse.map ("🧮✅ ".toList ++ ·)) ∧
      Level.warning.texts log =
          (trail.filterMap fun met => met.1.warning? met.2).map
            Notice.message ∧
        (Level.warning.texts log).length =
            (trail.countP fun met => (met.1.failure? met.2).isSome) +
              keys.countP Key.isUnknown ∧
          ∀ met ∈ trail,
            let single :=
              Notice.log .debug (met.1.pressed met.2 errorText).2
            (Level.info.texts single).length +
                (Level.warning.texts single).length ≤ 1 := by
  intro ended log trail
  have warnings :
      Level.warning.texts log =
        (trail.filterMap fun met => met.1.warning? met.2).map
          Notice.message := by
    rw [Level.texts_log, State.pressedAll_warnings]
  refine ⟨?_, warnings, ?_, ?_⟩
  · rcases State.exists_added start errorText keys with
      ⟨added, history, reports⟩
    refine ⟨added, history, ?_⟩
    rw [Level.texts_log, reports, Calculation.message_reports,
      History.lines, List.map_reverse]
  · have unknown :
        keys.countP Key.isUnknown =
          trail.countP fun met => Key.isUnknown met.2 := by
      conv_lhs => rw [← State.map_snd_trail start errorText keys]
      rw [List.countP_map]
      rfl
    rw [warnings, List.length_map, State.length_filterMap_warning?, unknown]
  · intro met _ single
    rcases (State.keyEffect_pressed met.1 met.2 errorText).exists_audited with
      ⟨entry, audited⟩
    rw [Level.texts_log, Level.texts_log, audited.reports,
      audited.warnings, Calculation.reports, List.length_map,
      List.length_map, List.length_map]
    rcases audited.apart with none | none <;> rw [none]
    · cases met.1.warning? met.2 <;> simp
    · cases entry <;> simp

end PocketCalc
