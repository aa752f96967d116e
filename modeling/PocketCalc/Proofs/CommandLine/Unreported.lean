import PocketCalc.Catalogue
import PocketCalc.Proofs.CommandLine.Effect
import PocketCalc.Proofs.Script.Lost

/-!
# Scripts that go unreported

A script that cannot be read is to be reported: its fault is logged, and the run
ends with a status of one.  This is so for any bytes and for any members of an
archive, with two exceptions.

An archive can lose its script between unpacking and opening.  This is the fault
of a file.  And its library can fail in another way than by finding the archive
damaged.  This is a foreign fault.  The command handles neither of them, so the
run has no status at all.
-/

namespace PocketCalc

/--
A run was asked for a script that is there.  Its settings are good, its log is
open, and a temporary directory and the transcript can be made.
-/
structure Invocation.CanReplay
    (invocation : Invocation)
    (settings : Settings)
    (target : LogTarget)
    (store : Store)
    (text : Text)
    (bytes : List UInt8) :
    Prop where
  opens : invocation.Opens settings target store
  asked : Arguments.request invocation.arguments = .script text
  found : invocation.store.read (.ofText text) = .ok bytes
  fresh : store.Fresh invocation.host.temporary
  written :
    ∀ output,
      Script.transcriptPath (.ofText text) = .ok output →
        ∃ place, invocation.store.target output = .ok place

/-- A run has a report with a status. -/
def Invocation.EndsWith (invocation : Invocation) (status : Nat) : Prop :=
  ∃ report, invocation.run = .ok report ∧ report.status = status

section Replays

variable
  {invocation : Invocation}
  {settings : Settings}
  {target : LogTarget}
  {store : Store}
  {text : Text}
  {bytes : List UInt8}
  (ready : invocation.CanReplay settings target store text bytes)

include ready

/-- Opening the log does not keep a script from being run. -/
theorem Invocation.CanReplay.run_eq_runScript :
    invocation.run =
      runScript invocation.host { settings := settings } target (.ofText text)
        bytes store := by
  have alike := (LogTarget.alikeBut_of_opened ready.opens.opened).2
  have found := ready.found
  rw [Store.read_eq_ok_iff] at found
  rcases found with ⟨place, located, file⟩
  have still : store.read (.ofText text) = .ok bytes := by
    rw [Store.read_eq_ok_iff]
    exact
      ⟨place, alike.locate_eq_ok_iff.mpr located,
        LogTarget.find?_of_opened ready.opens.opened file⟩
  exact run_of_script ready.opens ready.asked still

/-- A script that can be read is replayed to its end. -/
theorem Invocation.CanReplay.endsWith_of_text
    {script : Text}
    (readable :
      Script.readContent invocation.host store (.ofText text) bytes =
        .ok script) :
    invocation.EndsWith 0 := by
  rcases LogTarget.alikeBut_of_opened ready.opens.opened with ⟨fits, before⟩
  rcases Script.exists_transcriptPath ready.found with ⟨output, named⟩
  rcases ready.written output named with ⟨place, placed⟩
  have replayed :=
    LogTarget.write_alikeBut fits
      (Script.noticesOf { settings := settings } script)
  rw [← before.target_eq_ok_iff, ← replayed.target_eq_ok_iff] at placed
  rw [EndsWith, ready.run_eq_runScript,
    runScript_of_text readable named placed]
  exact ⟨_, rfl, rfl⟩

/-- A script that is at fault is reported. -/
theorem Invocation.CanReplay.endsWith_of_fault
    {fault : Script.Fault}
    (faulty :
      Script.readContent invocation.host store (.ofText text) bytes =
        .error (.script fault)) :
    invocation.EndsWith 1 := by
  rw [EndsWith, ready.run_eq_runScript, runScript_of_fault faulty]
  exact ⟨_, rfl, rfl⟩

/--
A script is read or its fault is reported, unless its archive loses it or goes
wrong.  A lost script ends the run with the fault of a file, an archive that
goes wrong ends it with the fault of its library, and nothing is reported.  A zip
archive loses its script only if the name of it leads astray; any archive reads a
script that was unpacked to where its name leads.
-/
theorem only_lost_scripts_go_unreported :
    let host := invocation.host
    let path := Path.ofText text
    (∀ fault,
      Script.LosesScript host store path bytes fault →
        Script.readContent host store path bytes = .error (.file fault) ∧
          invocation.run = .error (.file fault)) ∧
      (∀ fault,
        Script.GoesWrong host.libraries path bytes fault →
          Script.readContent host store path bytes = .error (.foreign fault) ∧
            invocation.run = .error (.foreign fault)) ∧
        ((∀ fault, ¬Script.LosesScript host store path bytes fault) →
          (∀ fault, ¬Script.GoesWrong host.libraries path bytes fault) →
            (∃ script, Script.readContent host store path bytes = .ok script) ∧
                invocation.EndsWith 0 ∨
              (∃ fault,
                  Script.readContent host store path bytes =
                    .error (.script fault)) ∧
                invocation.EndsWith 1) ∧
          Script.ReadsByName host store path bytes := by
  intro host path
  refine ⟨?_, ?_, ?_, Script.readsByName ready.fresh⟩
  · intro fault lost
    have read := Script.readContent_eq_file_iff.mpr lost
    refine ⟨read, ?_⟩
    rw [ready.run_eq_runScript]
    exact runScript_of_lost read
  · intro fault wrong
    have read :
        Script.readContent host store path bytes = .error (.foreign fault) :=
      Script.readContent_eq_foreign_iff.mpr wrong
    refine ⟨read, ?_⟩
    rw [ready.run_eq_runScript]
    exact runScript_of_foreign read
  · intro kept right
    cases read : Script.readContent host store path bytes with
    | ok script => exact .inl ⟨⟨script, rfl⟩, ready.endsWith_of_text read⟩
    | error fault =>
        cases fault with
        | script fault =>
            exact .inr ⟨⟨fault, rfl⟩, ready.endsWith_of_fault read⟩
        | file fault =>
            exact absurd (Script.readContent_eq_file_iff.mp read) (kept fault)
        | foreign fault =>
            exact
              absurd (Script.readContent_eq_foreign_iff.mp read) (right fault)

end Replays

/--
A tar archive is replayed whatever the name of its script is; a zip archive loses
a script that is to stand above the directory.
-/
theorem only_lost_scripts_go_unreported_with_double_dots :
    let members : List Member :=
      [⟨"../up.txt".toList, .regular, Utf8.encode "1+1 =".toList⟩]
    let host :=
      Catalogue.host [⟨.tarXz, [0xFD], members⟩, ⟨.zip, [0x50], members⟩]
    let store : Store :=
      { entries :=
          [(["work".toList, "s.tar.xz".toList], .file [0xFD]),
            (["work".toList, "s.zip".toList], .file [0x50]),
            (["tmp".toList], .directory)]
        workingDirectory := ["work".toList] }
    let start (name : String) : Invocation :=
      { host := host
        arguments := [name.toList]
        input := []
        environment := []
        store := store }
    ((start "s.tar.xz").CanReplay {} ⟨.info, none⟩ store "s.tar.xz".toList
          [0xFD] ∧
        (start "s.tar.xz").EndsWith 0) ∧
      (start "s.zip").CanReplay {} ⟨.info, none⟩ store "s.zip".toList [0x50] ∧
        (start "s.zip").run = .error (.file .notFound) := by
  intro members host store start
  have fresh : store.Fresh host.temporary := by
    decide +kernel
  have ready
      (name output : String)
      (bytes : List UInt8)
      (asked : Arguments.request [name.toList] = .script name.toList)
      (found : store.read (.ofText name.toList) = .ok bytes)
      (named :
        Script.transcriptPath (.ofText name.toList) =
          .ok (.ofText output.toList))
      (placed :
        store.target (.ofText output.toList) =
          .ok ["work".toList, output.toList]) :
      (start name).CanReplay {} ⟨.info, none⟩ store name.toList bytes := by
    refine ⟨⟨rfl, rfl⟩, asked, found, fresh, ?_⟩
    intro other writes
    cases named.symm.trans writes
    exact ⟨_, placed⟩
  have readyTar :
      (start "s.tar.xz").CanReplay {} ⟨.info, none⟩ store "s.tar.xz".toList
        [0xFD] :=
    ready "s.tar.xz" "s_tar_xz_results.txt" [0xFD] (by decide +kernel) rfl rfl
      rfl
  have readyZip :
      (start "s.zip").CanReplay {} ⟨.info, none⟩ store "s.zip".toList [0x50] :=
    ready "s.zip" "s_zip_results.txt" [0x50] (by decide +kernel) rfl rfl rfl
  refine ⟨⟨readyTar, ?_⟩, readyZip, ?_⟩
  · have read :
        Script.readContent host store
            (.ofText "s.tar.xz".toList) [0xFD] =
          .ok "1+1 =".toList := by
      rfl
    have kept (fault : FileFault) :
        ¬Script.LosesScript host store (.ofText "s.tar.xz".toList) [0xFD]
          fault := by
      intro lost
      have failed := read.symm.trans (Script.readContent_eq_file_iff.mpr lost)
      cases failed
    have right (fault : ForeignFault) :
        ¬Script.GoesWrong host.libraries (.ofText "s.tar.xz".toList) [0xFD]
          fault := by
      intro wrong
      have failed := read.symm.trans (Script.readContent_eq_foreign_iff.mpr wrong)
      cases failed
    rcases (only_lost_scripts_go_unreported readyTar).2.2.1 kept right with
      ⟨_, done⟩ | ⟨⟨fault, failed⟩, _⟩
    · exact done
    · rw [read] at failed
      cases failed
  · have lost :
        Script.LosesScript host store (.ofText "s.zip".toList)
          [0x50] .notFound :=
      ⟨_, "../up.txt".toList, _, ⟨.zip, rfl, rfl⟩, ⟨_, rfl, by decide +kernel⟩,
        rfl, rfl⟩
    exact ((only_lost_scripts_go_unreported readyZip).1 _ lost).2

/-- The zip way loses a member above its directory, the 7z way a directory. -/
theorem lost_scripts_escape_the_run :
    let host :=
      Catalogue.host
        [⟨.zip, [0x50],
            [⟨"../up.txt".toList, .regular, Utf8.encode "U".toList⟩]⟩,
          ⟨.sevenZip, [0x37], [⟨"d.txt".toList, .directory, []⟩]⟩]
    let store : Store :=
      { entries :=
          [(["work".toList, "s.zip".toList], .file [0x50]),
            (["work".toList, "s.7z".toList], .file [0x37]),
            (["tmp".toList], .directory)]
        workingDirectory := ["work".toList] }
    let start (name : String) : Invocation :=
      { host := host
        arguments := [name.toList]
        input := []
        environment := []
        store := store }
    (store.read (.ofText "s.zip".toList) = .ok [0x50] ∧
        Script.readContent host store (.ofText "s.zip".toList) [0x50] =
            .error (.file .notFound) ∧
          (start "s.zip").run = .error (.file .notFound)) ∧
      store.read (.ofText "s.7z".toList) = .ok [0x37] ∧
        Script.readContent host store (.ofText "s.7z".toList) [0x37] =
            .error (.file .isDirectory) ∧
          (start "s.7z").run = .error (.file .isDirectory) := by
  intro host store start
  exact ⟨⟨rfl, rfl, rfl⟩, rfl, rfl, rfl⟩

end PocketCalc
