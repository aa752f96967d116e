import PocketCalc.Keypad.Press
import PocketCalc.Settings

/-!
# Sessions

A session is a calculator as a screen uses it: settings and a state.  Keys go
in one by one; the display and the history can be read at any time.  Because a
pressed key meets no fault, pressing always has a result here.
-/

namespace PocketCalc

/-- A calculator with its settings. -/
structure Session where
  settings : Settings := {}
  state : State := {}
deriving DecidableEq

namespace State

theorem press_ne_error
    (state : State)
    (token errorText : Text)
    (fault : PressFault) :
    state.press token errorText ≠ .error fault := by
  obtain ⟨next, notices, succeeded⟩ := state.press_ok token errorText
  rw [succeeded]
  simp

/-- Press a key, which always succeeds. -/
def pressed (state : State) (token errorText : Text) : State × List Notice :=
  match result : state.press token errorText with
  | .ok next => next
  | .error fault => absurd result (state.press_ne_error token errorText fault)

theorem press_eq_ok_pressed (state : State) (token errorText : Text) :
    state.press token errorText = .ok (state.pressed token errorText) := by
  unfold pressed
  split
  · assumption
  · rename_i fault failed
    exact absurd failed (state.press_ne_error token errorText fault)

/-- Press keys one after the other. -/
def pressedAll (state : State) (errorText : Text) :
    List Text → State × List Notice
  | [] => (state, [])
  | token :: rest =>
      let (next, notices) := state.pressed token errorText
      let (last, more) := next.pressedAll errorText rest
      (last, notices ++ more)

end State

namespace Session

/-- Press a key. -/
def press (session : Session) (token : Text) : Session × List Notice :=
  let (state, notices) :=
    session.state.pressed token session.settings.errorText
  ({ session with state := state }, notices)

/-- Press keys one after the other. -/
def pressAll (session : Session) (tokens : List Text) :
    Session × List Notice :=
  let (state, notices) :=
    session.state.pressedAll session.settings.errorText tokens
  ({ session with state := state }, notices)

/-- The text on the display. -/
def display (session : Session) : Text :=
  session.state.display

/-- The lines of the history, the newest first. -/
def historyLines (session : Session) : List Text :=
  session.state.history.lines

end Session

end PocketCalc
