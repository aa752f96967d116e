import PocketCalc.CommandLine.Run
import PocketCalc.Proofs.Files.Changes
import PocketCalc.Proofs.Files.Names

/-!
# What a run comes to

The settings are loaded and the log is opened first; from then on a run has six
ways to end with a report.  `RunEffect` has a constructor for each of them, with
all that leads there and the whole report.  What holds of every run is shown by
cases on it.

The log changes its own file only, so paths lead where they led before the run
whenever a notice is written.
-/

namespace PocketCalc

/-! ## The file of the log -/

namespace LogTarget

/-- The places that a log writes to. -/
def places (target : LogTarget) : List Place :=
  target.place.toList

/-- The log file, if there is one, can be written in a store. -/
def Fits (target : LogTarget) (store : Store) : Prop :=
  ∀ place ∈ target.places, store.Writable place

section Changes

variable
  {settings : Settings}
  {target : LogTarget}
  {places : List Place}
  {before after store : Store}

/-- A log that fits a store fits every store with the same directories. -/
theorem Fits.of_alikeBut
    (fits : target.Fits before)
    (alike : Store.AlikeBut places before after) :
    target.Fits after := by
  intro place member
  rw [alike.writable_iff]
  exact fits place member

/-- An opened log has no file, or one that could be written and is there now. -/
theorem exists_touch_of_opened
    (opened : LogTarget.opened settings before = .ok (target, after)) :
    target.places = [] ∧ after = before ∨
      ∃ place,
        target.places = [place] ∧
          before.Writable place ∧ after = before.touch place := by
  rw [LogTarget.opened] at opened
  split at opened
  · cases opened
  · split at opened
    · cases opened
      exact Or.inl ⟨rfl, rfl⟩
    · split at opened
      · cases opened
      · rename_i place targeted
        cases opened
        exact Or.inr ⟨place, rfl, Store.writable_of_target targeted, rfl⟩

/-- Opening a log changes its file only, which can be written then. -/
theorem alikeBut_of_opened
    (opened : LogTarget.opened settings before = .ok (target, after)) :
    target.Fits after ∧ Store.AlikeBut target.places before after := by
  rcases exists_touch_of_opened opened with
    ⟨none, rfl⟩ | ⟨place, here, writable, rfl⟩
  · exact ⟨by simp [Fits, none], .refl _ after⟩
  · have alike := Store.touch_alikeBut writable
    rw [here]
    refine ⟨?_, alike⟩
    intro other member
    rw [here, List.mem_singleton] at member
    rw [member, alike.writable_iff]
    exact writable

/-- Opening a log leaves every file that was there. -/
theorem find?_of_opened
    {place : Place}
    {bytes : List UInt8}
    (opened : LogTarget.opened settings before = .ok (target, after))
    (found : before.find? place = some (.file bytes)) :
    after.find? place = some (.file bytes) := by
  rcases exists_touch_of_opened opened with ⟨_, rfl⟩ | ⟨other, _, writable, rfl⟩
  · exact found
  · exact Store.find?_touch_of_file writable found

theorem write_alikeBut (fits : target.Fits store) (notices : List Notice) :
    Store.AlikeBut target.places store (target.write notices store) := by
  rw [write]
  split
  · exact .refl _ store
  · rename_i place there
    have here : target.places = [place] := by
      rw [LogTarget.places, there]
      rfl
    rw [here]
    apply Store.append_alikeBut
    apply fits
    simp [here]

end Changes

end LogTarget

/-! ## Scripts -/

namespace Script

/-- The transcript of a script that is replayed in a session. -/
def transcriptOf (session : Session) (script : Text) : Text :=
  let (last, steps, _) := replay session (keyLines script)
  transcript steps last.historyLines

/-- The notices of a script that is replayed in a session. -/
def noticesOf (session : Session) (script : Text) : List Notice :=
  (replay session (keyLines script)).2.2

end Script

/-- A file that can be read has a path beside it for its transcript. -/
theorem Script.exists_transcriptPath
    {store : Store}
    {text : Text}
    {bytes : List UInt8}
    (found : store.read (.ofText text) = .ok bytes) :
    ∃ output, transcriptPath (.ofText text) = .ok output := by
  have named : (Path.ofText text).names ≠ [] := by
    intro nameless
    rw [Store.read_eq_ok_iff] at found
    rcases found with ⟨place, located, file⟩
    have start := Store.follow_of_locate located
    rw [nameless, Store.follow_nil] at start
    subst start
    rw [Store.find?_above_start List.prefix_rfl] at file
    cases file
  rw [transcriptPath, Path.withName, if_neg (Path.name_ofText_ne_nil named)]
  exact ⟨_, rfl⟩

/-- The report of a script that was replayed and whose transcript was written. -/
def Report.transcribed
    (session : Session)
    (target : LogTarget)
    (script : Text)
    (output : Path)
    (place : Place)
    (store : Store) :
    Report where
  status := 0
  output := Script.transcriptOf session script
  log :=
    target.lines
      (Script.noticesOf session script ++ [.transcriptWritten output.render])
  store :=
    target.write [.transcriptWritten output.render]
      ((target.write (Script.noticesOf session script) store).write place
        (Script.transcriptOf session script))

section Scripts

variable
  {host : Host}
  {session : Session}
  {target : LogTarget}
  {path output : Path}
  {bytes : List UInt8}
  {script : Text}
  {place : Place}
  {store : Store}
  {report : Report}

theorem runScript_of_text
    (readable : Script.readContent host store path bytes = .ok script)
    (named : Script.transcriptPath path = .ok output)
    (placed :
      (target.write (Script.noticesOf session script) store).target output =
        .ok place) :
    runScript host session target path bytes store =
      .ok (.transcribed session target script output place store) := by
  rw [Script.noticesOf] at placed
  rw [runScript, attemptScript, readable]
  dsimp only
  rw [named]
  dsimp only
  rw [placed]
  rfl

/-- A script that is at fault is reported before any calculator is used. -/
theorem runScript_of_fault
    {fault : Script.Fault}
    (faulty : Script.readContent host store path bytes = .error (.script fault)) :
    runScript host session target path bytes store =
      .ok (.logged target 1 [] [.notReplayed path.render fault.message] store) := by
  rw [runScript, attemptScript, faulty]
  rfl

/-- A script that is lost ends the run with the fault of a file. -/
theorem runScript_of_lost
    {fault : FileFault}
    (lost : Script.readContent host store path bytes = .error (.file fault)) :
    runScript host session target path bytes store = .error (.file fault) := by
  rw [runScript, attemptScript, lost]
  rfl

/-- What goes wrong with an archive ends the run. -/
theorem runScript_of_foreign
    {fault : ForeignFault}
    (wrong : Script.readContent host store path bytes = .error (.foreign fault)) :
    runScript host session target path bytes store = .error (.foreign fault) := by
  rw [runScript, attemptScript, wrong]
  rfl

/-- A run that only writes notices changes the log file at most. -/
theorem logged_alikeBut
    {status : Nat}
    {printed : Text}
    {notices : List Notice}
    (fits : target.Fits store) :
    Store.AlikeBut target.places store
      (Report.logged target status printed notices store).store :=
  LogTarget.write_alikeBut fits notices

section Transcribed

variable
  (fits : target.Fits store)
  (placed :
    (target.write (Script.noticesOf session script) store).target output =
      .ok place)

include fits placed

/-- Up to its last notice a replay changes its transcript and the log file. -/
theorem written_alikeBut :
    Store.AlikeBut (place :: target.places) store
      ((target.write (Script.noticesOf session script) store).write place
        (Script.transcriptOf session script)) := by
  have writable := Store.writable_of_target placed
  have replayed :=
    LogTarget.write_alikeBut fits (Script.noticesOf session script)
  have written :=
    Store.write_alikeBut writable (Script.transcriptOf session script)
  apply (replayed.trans written).mono
  simp

/-- A replayed script changes its transcript and the log file at most. -/
theorem transcribed_alikeBut :
    Store.AlikeBut (place :: target.places) store
      (Report.transcribed session target script output place store).store := by
  have written := written_alikeBut fits placed
  have told :=
    LogTarget.write_alikeBut (fits.of_alikeBut written)
      [.transcriptWritten output.render]
  apply (written.trans told).mono
  simp

/-- The transcript stands at its place, unless the log is written there. -/
theorem find?_transcribed (apart : place ∉ target.places) :
    (Report.transcribed session target script output place store).store.find?
        place =
      some (.file (Utf8.encode (Script.transcriptOf session script))) := by
  have told :=
    LogTarget.write_alikeBut
      (fits.of_alikeBut (written_alikeBut fits placed))
      [.transcriptWritten output.render]
  rw [Report.transcribed, told.others place apart, Store.write,
    Store.find?_insert_self (Store.writable_of_target placed).inside]

end Transcribed

end Scripts

/-! ## Whole runs -/

/-- The settings of a run are loaded, and its log is opened. -/
structure Invocation.Opens
    (invocation : Invocation)
    (settings : Settings)
    (target : LogTarget)
    (store : Store) :
    Prop where
  loaded : invocation.settings = .ok settings
  opened : LogTarget.opened settings invocation.store = .ok (target, store)

/--
What a run of an invocation can come to, once its settings are loaded and its
log is open.
-/
inductive RunEffect
    (invocation : Invocation)
    (settings : Settings)
    (target : LogTarget)
    (store : Store) :
    Report → Prop where
  | helped (asked : Arguments.request invocation.arguments = .help) :
      RunEffect invocation settings target store
        (.logged target 0 Invocation.helpText [] store)
  | refused (asked : Arguments.request invocation.arguments = .refused) :
      RunEffect invocation settings target store (.logged target 2 [] [] store)
  | typed (asked : Arguments.request invocation.arguments = .interactive) :
      RunEffect invocation settings target store
        (runInteractive { settings := settings } target invocation.input store)
  | absent
      {text : Text}
      (asked : Arguments.request invocation.arguments = .script text)
      (missing : store.file? (.ofText text) = .ok none) :
      RunEffect invocation settings target store (.logged target 2 [] [] store)
  | unread
      {text : Text}
      {bytes : List UInt8}
      {fault : Script.Fault}
      (asked : Arguments.request invocation.arguments = .script text)
      (found : store.read (.ofText text) = .ok bytes)
      (faulty :
        Script.readContent invocation.host store (.ofText text) bytes =
          .error (.script fault)) :
      RunEffect invocation settings target store
        (.logged target 1 []
          [.notReplayed (Path.ofText text).render fault.message] store)
  | replayed
      {text script : Text}
      {bytes : List UInt8}
      {output : Path}
      {place : Place}
      (asked : Arguments.request invocation.arguments = .script text)
      (found : store.read (.ofText text) = .ok bytes)
      (readable :
        Script.readContent invocation.host store (.ofText text) bytes =
          .ok script)
      (named : Script.transcriptPath (.ofText text) = .ok output)
      (placed :
        (target.write
              (Script.noticesOf { settings := settings } script)
              store).target output =
          .ok place) :
      RunEffect invocation settings target store
        (.transcribed { settings := settings } target script output place store)

section Runs

variable
  {invocation : Invocation}
  {settings : Settings}
  {target : LogTarget}
  {store : Store}
  {text : Text}
  {bytes : List UInt8}
  {report : Report}

/-- Running on a script that is there replays it. -/
theorem run_of_script
    (opens : invocation.Opens settings target store)
    (asked : Arguments.request invocation.arguments = .script text)
    (found : store.read (.ofText text) = .ok bytes) :
    invocation.run =
      runScript invocation.host { settings := settings } target (.ofText text)
        bytes store := by
  rw [Invocation.run, Invocation.attempt, opens.loaded]
  dsimp only
  rw [opens.opened]
  dsimp only
  rw [Invocation.proceed, asked]
  dsimp only
  rw [Store.file?_of_read found]
  rfl

/-- A script that is replayed or found to be at fault has that effect. -/
theorem runEffect_of_runScript
    (asked : Arguments.request invocation.arguments = .script text)
    (found : store.read (.ofText text) = .ok bytes)
    (ran :
      runScript invocation.host { settings := settings } target (.ofText text)
          bytes store =
        .ok report) :
    RunEffect invocation settings target store report := by
  cases read :
      Script.readContent invocation.host store (.ofText text) bytes with
  | error fault =>
      cases fault with
      | file fault =>
          rw [runScript_of_lost read] at ran
          cases ran
      | foreign fault =>
          rw [runScript_of_foreign read] at ran
          cases ran
      | script fault =>
          rw [runScript_of_fault read] at ran
          cases ran
          exact .unread asked found read
  | ok script =>
      rcases Script.exists_transcriptPath found with ⟨output, named⟩
      cases placed :
        (target.write (Script.noticesOf { settings := settings } script)
          store).target output with
      | ok place =>
          rw [runScript_of_text read named placed] at ran
          cases ran
          exact .replayed asked found read named placed
      | error fault =>
          rw [Script.noticesOf] at placed
          rw [runScript, mapError_eq_ok_iff, attemptScript, read] at ran
          dsimp only at ran
          rw [named] at ran
          dsimp only at ran
          rw [placed] at ran
          cases ran

/-- Every report comes about in one of these ways. -/
theorem exists_runEffect (ran : invocation.run = .ok report) :
    ∃ settings target store,
      invocation.Opens settings target store ∧
        RunEffect invocation settings target store report := by
  rw [Invocation.run, mapError_eq_ok_iff, Invocation.attempt] at ran
  cases loaded : invocation.settings with
  | error fault => simp [loaded] at ran
  | ok settings =>
      rw [loaded] at ran
      dsimp only at ran
      cases opened : LogTarget.opened settings invocation.store with
      | error fault => simp [opened] at ran
      | ok logged =>
          rcases logged with ⟨target, store⟩
          rw [opened] at ran
          dsimp only at ran
          rw [Invocation.proceed] at ran
          refine ⟨settings, target, store, ⟨loaded, opened⟩, ?_⟩
          cases asked : Arguments.request invocation.arguments with
          | help =>
              simp only [asked, Except.ok.injEq] at ran
              exact ran ▸ .helped asked
          | refused =>
              simp only [asked, Except.ok.injEq] at ran
              exact ran ▸ .refused asked
          | interactive =>
              simp only [asked, Except.ok.injEq] at ran
              exact ran ▸ .typed asked
          | script text =>
              rw [asked] at ran
              dsimp only at ran
              split at ran
              · cases ran
              · rename_i missing
                cases ran
                exact .absent asked missing
              · rename_i bytes found
                apply runEffect_of_runScript asked (Store.read_of_file? found)
                rw [runScript, mapError_eq_ok_iff]
                exact ran

end Runs

end PocketCalc
