import PocketCalc.Catalogue
import PocketCalc.Proofs.CommandLine.Effect

/-!
# A run does all of its work or none

A run that replays a script to its end prints the transcript of it and writes
the same text beside the script.  A run that stops earlier, with a status of one
or two, prints nothing, and no key of the script is pressed.  Neither of them
touches any other file but that of the log.

This needs a log file that is neither the script nor the transcript: otherwise
opening the log could make the script, or the log would go on in the file of the
transcript.
-/

namespace PocketCalc

namespace Invocation

/-- The place of the log file of a run, if it has one and it can be opened. -/
def logPlace? (invocation : Invocation) : Option Place :=
  match invocation.settings with
  | .error _ => none
  | .ok settings =>
      match LogTarget.opened settings invocation.store with
      | .error _ => none
      | .ok (target, _) => target.place

/-- The log file, if there is one, is neither the script nor its transcript. -/
def KeepsLogApart (invocation : Invocation) : Prop :=
  ∀ text place,
    Arguments.request invocation.arguments = .script text →
      invocation.logPlace? = some place →
        invocation.store.locate (.ofText text) ≠ .ok place ∧
          ∀ output,
            Script.transcriptPath (.ofText text) = .ok output →
              invocation.store.locate output ≠ .ok place

/--
The script at a path was replayed on a new calculator.  Its transcript was
printed and stands beside it, and no other file changed but that of the log.
-/
def Transcribes
    (invocation : Invocation)
    (text : Text)
    (report : Report) :
    Prop :=
  ∃ settings target store bytes script output place,
    invocation.Opens settings target store ∧
      invocation.store.read (.ofText text) = .ok bytes ∧
        Script.readContent invocation.host store (.ofText text) bytes =
            .ok script ∧
          report.output = Script.transcriptOf { settings := settings } script ∧
            Script.transcriptPath (.ofText text) = .ok output ∧
              report.store.read output = .ok (Utf8.encode report.output) ∧
                report.store.locate output = .ok place ∧
                  ∀ other,
                    other ≠ place →
                      invocation.logPlace? ≠ some other →
                        report.store.find? other =
                          invocation.store.find? other

/-- A run stopped before any key of a script was pressed. -/
structure StopsEarly (invocation : Invocation) (report : Report) : Prop where
  output : report.output = []
  files :
    ∀ other,
      invocation.logPlace? ≠ some other →
        report.store.find? other = invocation.store.find? other
  /-- A script that is there is at fault, and no calculator was asked for it. -/
  unpressed :
    ∀ text bytes,
      Arguments.request invocation.arguments = .script text →
        invocation.store.read (.ofText text) = .ok bytes →
          ∃ fault settings target store,
            invocation.Opens settings target store ∧
              Script.readContent invocation.host store (.ofText text) bytes =
                  .error (.script fault) ∧
                ∀ session,
                  runScript invocation.host session target (.ofText text) bytes
                      store =
                    .ok report
  log :
    ∀ line ∈ report.log,
      ∃ path reason, line = (Notice.notReplayed path reason).logLine

section Opened

variable
  {invocation : Invocation}
  {settings : Settings}
  {target : LogTarget}
  {store : Store}
  {text : Text}
  {bytes : List UInt8}
  {place : Place}
  {report : Report}

theorem Opens.mem_places_iff
    (opens : invocation.Opens settings target store) :
    place ∈ target.places ↔ invocation.logPlace? = some place := by
  rw [logPlace?, opens.loaded]
  dsimp only
  rw [opens.opened, LogTarget.places, Option.mem_toList]

/-- Opening a log that is kept apart leaves the script as it was. -/
theorem Opens.read_eq_ok_iff
    (opens : invocation.Opens settings target store)
    (apart : invocation.KeepsLogApart)
    (asked : Arguments.request invocation.arguments = .script text) :
    store.read (.ofText text) = .ok bytes ↔
      invocation.store.read (.ofText text) = .ok bytes := by
  have alike := (LogTarget.alikeBut_of_opened opens.opened).2
  rw [Store.read_eq_ok_iff, Store.read_eq_ok_iff]
  simp only [alike.locate_eq_ok_iff]
  apply exists_congr
  intro place
  apply and_congr_right
  intro located
  rw [alike.others place]
  intro member
  exact (apart text place asked (opens.mem_places_iff.mp member)).1 located

/-- A run that only writes notices leaves all files but that of the log. -/
theorem Opens.find?_logged
    {status : Nat}
    {output : Text}
    {notices : List Notice}
    (opens : invocation.Opens settings target store)
    (elsewhere : invocation.logPlace? ≠ some place) :
    (Report.logged target status output notices store).store.find? place =
      invocation.store.find? place := by
  rcases LogTarget.alikeBut_of_opened opens.opened with ⟨fits, alike⟩
  have outside : place ∉ target.places := by
    rw [opens.mem_places_iff]
    exact elsewhere
  rw [(logged_alikeBut fits).others place outside, alike.others place outside]

/-- A run that tells at most of a script at fault has pressed no key. -/
theorem Opens.stopsEarly
    {status : Nat}
    {notices : List Notice}
    (opens : invocation.Opens settings target store)
    (told :
      ∀ notice ∈ notices, ∃ path reason, notice = .notReplayed path reason)
    (unpressed :
      ∀ text bytes,
        Arguments.request invocation.arguments = .script text →
          invocation.store.read (.ofText text) = .ok bytes →
            ∃ fault,
              Script.readContent invocation.host store (.ofText text) bytes =
                  .error (.script fault) ∧
                status = 1 ∧
                  notices =
                    [.notReplayed (Path.ofText text).render fault.message]) :
    invocation.StopsEarly (.logged target status [] notices store) where
  output := rfl
  files _ := opens.find?_logged
  unpressed text bytes asked found := by
    rcases unpressed text bytes asked found with ⟨fault, faulty, rfl, rfl⟩
    exact
      ⟨fault, settings, target, store, opens, faulty,
        fun _ => runScript_of_fault faulty⟩
  log line member := by
    rcases List.mem_map.mp member with ⟨notice, kept, rfl⟩
    rcases told notice (List.mem_filter.mp kept).1 with ⟨path, reason, rfl⟩
    exact ⟨path, reason, rfl⟩

/-- A script that was replayed is transcribed as a whole. -/
theorem Opens.transcribes
    {script : Text}
    {output : Path}
    (opens : invocation.Opens settings target store)
    (apart : invocation.KeepsLogApart)
    (asked : Arguments.request invocation.arguments = .script text)
    (found : store.read (.ofText text) = .ok bytes)
    (readable :
      Script.readContent invocation.host store (.ofText text) bytes =
        .ok script)
    (named : Script.transcriptPath (.ofText text) = .ok output)
    (placed :
      (target.write
            (Script.noticesOf { settings := settings } script)
            store).target output =
        .ok place) :
    invocation.Transcribes text
      (.transcribed { settings := settings } target script output place store) := by
  rcases LogTarget.alikeBut_of_opened opens.opened with ⟨fits, before⟩
  have after := transcribed_alikeBut fits placed
  have located : invocation.store.locate output = .ok place := by
    rw [Store.target_eq_ok_iff] at placed
    exact
      before.locate_eq_ok_iff.mp
        ((LogTarget.write_alikeBut fits _).locate_eq_ok_iff.mp placed.1)
  have outside : place ∉ target.places := by
    intro member
    have here := opens.mem_places_iff.mp member
    exact (apart text place asked here).2 output named located
  have standing :
      (Report.transcribed { settings := settings } target script output place
        store).store.locate output = .ok place := by
    rw [after.locate_eq_ok_iff, before.locate_eq_ok_iff]
    exact located
  refine
    ⟨settings, target, store, bytes, script, output, place, opens,
      (opens.read_eq_ok_iff apart asked).mp found, readable, rfl, named, ?_,
      standing, ?_⟩
  · rw [Store.read_eq_ok_iff]
    exact ⟨place, standing, find?_transcribed fits placed outside⟩
  · intro other different elsewhere
    have aside : other ∉ target.places := by
      rw [opens.mem_places_iff]
      exact elsewhere
    rw [after.others other (by simp [different, aside]),
      before.others other aside]

end Opened

end Invocation

/--
A run does all of its work or none.  If it replays a script to its end, the
transcript that it prints is also what the file beside the script holds, and
it is that of a new calculator; if it ends with a status of one or two, it
prints nothing and presses no key of a script.  It leaves all other files as
they are, except that of the log.
-/
theorem run_all_or_nothing
    {invocation : Invocation}
    {report : Report}
    (apart : invocation.KeepsLogApart)
    (ran : invocation.run = .ok report) :
    (∀ text,
        Arguments.request invocation.arguments = .script text →
          report.status = 0 → invocation.Transcribes text report) ∧
      (report.status = 1 ∨ report.status = 2 →
        invocation.StopsEarly report) := by
  rcases exists_runEffect ran with ⟨settings, target, store, opens, effect⟩
  cases effect with
  | helped asked => simp [asked, Report.logged]
  | typed asked => simp [asked, runInteractive, Report.logged]
  | refused asked =>
      refine ⟨by simp [asked], fun _ => opens.stopsEarly (by simp) ?_⟩
      simp [asked]
  | absent asked missing =>
      refine ⟨by simp [Report.logged], fun _ => opens.stopsEarly (by simp) ?_⟩
      intro text bytes again found
      rw [asked] at again
      cases again
      have still := (opens.read_eq_ok_iff apart asked).mpr found
      have there := Store.file?_of_read still
      rw [missing] at there
      cases there
  | unread asked found faulty =>
      refine ⟨by simp [Report.logged], fun _ => opens.stopsEarly (by simp) ?_⟩
      intro text bytes again read
      rw [asked] at again
      cases again
      have same := (opens.read_eq_ok_iff apart asked).mpr read
      rw [found] at same
      cases same
      exact ⟨_, faulty, rfl, rfl⟩
  | replayed asked found readable named placed =>
      refine ⟨?_, by simp [Report.transcribed]⟩
      intro text again _
      rw [asked] at again
      cases again
      exact opens.transcribes apart asked found readable named placed

/-- A script that is replayed and one at fault, with a log file beside them. -/
theorem run_all_or_nothing_beside_log_file :
    let store : Store :=
      { entries :=
          [(["work".toList, "keys.txt".toList],
              .file (Utf8.encode "1+1\r\n=".toList)),
            (["work".toList, "keys.zip".toList], .file [])]
        workingDirectory := ["work".toList] }
    let start (name : String) : Invocation :=
      { host := Catalogue.host []
        arguments := [name.toList]
        input := []
        environment := [("CALC_LOG_FILE".toList, "run.log".toList)]
        store := store }
    let shown : Text :=
      Text.asLines ["1+1 -> 1+1", "= -> 2", [], "History:", "1+1 = 2"]
    (∃ report,
      (start "/work/keys.txt").run = .ok report ∧
        report.output = shown ∧
          (start "/work/keys.txt").Transcribes "/work/keys.txt".toList report) ∧
      ∃ report,
        (start "keys.zip").run = .ok report ∧
          report.status = 1 ∧ (start "keys.zip").StopsEarly report := by
  intro store start shown
  have apart
      (name : String)
      (output : Path)
      (asked : Arguments.request [name.toList] = .script name.toList)
      (log : (start name).logPlace? = some ["work".toList, "run.log".toList])
      (named : Script.transcriptPath (.ofText name.toList) = .ok output)
      (script :
        store.locate (.ofText name.toList) ≠
          .ok ["work".toList, "run.log".toList])
      (transcript :
        store.locate output ≠ .ok ["work".toList, "run.log".toList]) :
      (start name).KeepsLogApart := by
    intro text place again here
    cases asked.symm.trans again
    cases log.symm.trans here
    refine ⟨script, ?_⟩
    intro other writes
    cases named.symm.trans writes
    exact transcript
  have ends
      (name : String)
      (status : Nat)
      (printed : Text)
      (ended :
        (start name).run.toOption.map (fun report =>
            (report.status, report.output)) =
          some (status, printed)) :
      ∃ report,
        (start name).run = .ok report ∧
          report.status = status ∧ report.output = printed := by
    cases ran : (start name).run with
    | error fault =>
        rw [ran] at ended
        cases ended
    | ok report =>
        rw [ran] at ended
        cases ended
        exact ⟨report, rfl, rfl, rfl⟩
  constructor
  · rcases ends "/work/keys.txt" 0 shown (by decide +kernel) with
      ⟨report, ran, done, printed⟩
    have apartHere :=
      apart "/work/keys.txt" (.ofText "/work/keys_txt_results.txt".toList)
        (by decide +kernel) (by decide +kernel) rfl nofun nofun
    refine ⟨report, ran, printed, ?_⟩
    exact (run_all_or_nothing apartHere ran).1 _ (by decide +kernel) done
  · rcases ends "keys.zip" 1 [] (by decide +kernel) with ⟨report, ran, failed, _⟩
    have apartHere :=
      apart "keys.zip" (.ofText "keys_zip_results.txt".toList)
        (by decide +kernel) (by decide +kernel) rfl nofun nofun
    refine ⟨report, ran, failed, ?_⟩
    exact (run_all_or_nothing apartHere ran).2 (.inl failed)

end PocketCalc
