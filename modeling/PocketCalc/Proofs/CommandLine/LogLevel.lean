import PocketCalc.Catalogue
import PocketCalc.CommandLine.Run
import PocketCalc.Proofs.Log.Lines

/-!
# The level of the log changes the log only

Notices are given as a run goes on, and only the log asks whether they pass its
threshold.  So for given arguments, input and files, and a given text for
errors, there is one course that a run takes, with all of its notices; the
setting of the level decides which of them the log shows.  This is so for runs
that end with a report and for those that a fault interrupts.

A log file is one of the files that a run leaves, so there must be none.  And the
settings file can refer to the level: what it gives besides must be the same.
-/

namespace PocketCalc

/-! ## Thresholds -/

namespace Level

/--
The threshold that a name in upper case means.  Each level has its own name and
two have another one; an unset level is that of everything that has none of its
own; a name that is not known means `info`.
-/
inductive NamedBy : Text → Level → Prop where
  | own (level : Level) : NamedBy level.name.toList level
  | warn : NamedBy "WARN" .warning
  | fatal : NamedBy "FATAL" .critical
  | unset : NamedBy "NOTSET" .warning
  | unknown
      {name : Text}
      (notOwn : ∀ level : Level, name ≠ level.name.toList)
      (notOther : name ≠ "WARN" ∧ name ≠ "FATAL" ∧ name ≠ "NOTSET")
      (maybeLevel : ∀ none : NoLevel, name ≠ none.name.toList) :
      NamedBy name .info

theorem namedBy_of_mem
    {entry : String × Level}
    (member : entry ∈ names) :
    NamedBy entry.1.toList entry.2 := by
  rw [names] at member
  simp only [List.mem_cons, List.not_mem_nil, or_false] at member
  rcases member with rfl | rfl | rfl | rfl | rfl | rfl | rfl | rfl
  · exact .own .debug
  · exact .own .info
  · exact .own .warning
  · exact .warn
  · exact .own .error
  · exact .own .critical
  · exact .fatal
  · exact .unset

theorem namedBy_of_unknown
    {name : Text}
    (absent : ∀ entry ∈ names, name ≠ entry.1.toList)
    (maybeLevel : ∀ none : NoLevel, name ≠ none.name.toList) :
    NamedBy name .info := by
  refine .unknown (fun level => absent (level.name, level) ?_) ⟨?_, ?_, ?_⟩
    maybeLevel
  · cases level <;> decide
  · exact absent ("WARN", warning) (by decide)
  · exact absent ("FATAL", critical) (by decide)
  · exact absent ("NOTSET", warning) (by decide)

/-- A setting means the level that its upper case names, if this can be one. -/
theorem namedBy_of_ofSetting
    {setting : Text}
    {level : Level}
    (means : ofSetting setting = .ok level) :
    NamedBy (upper setting) level := by
  rw [ofSetting] at means
  generalize upper setting = name at means ⊢
  split at means
  · cases means
  · rename_i noFormat
    split at means
    · cases means
    · rename_i noStyles
      split at means
      · rename_i entry found
        cases means
        have spelled := List.find?_some found
        rw [decide_eq_true_eq] at spelled
        rw [← spelled]
        exact namedBy_of_mem (List.mem_of_find?_eq_some found)
      · rename_i missing
        cases means
        apply namedBy_of_unknown
        · intro entry member same
          apply List.find?_eq_none.mp missing entry member
          exact decide_eq_true same.symm
        · intro none
          cases none with
          | format => exact noFormat
          | styles => exact noStyles

/-- A setting means no level only if it names something that is none. -/
theorem eq_name_of_ofSetting
    {setting : Text}
    {none : NoLevel}
    (means : ofSetting setting = .error none) :
    upper setting = none.name.toList := by
  rw [ofSetting] at means
  split at means
  · rename_i format
    cases means
    exact format
  · split at means
    · rename_i styles
      cases means
      exact styles
    · split at means <;> cases means

end Level

/-! ## Settings -/

namespace Settings

/-- Two sources give the same log file and the same text for errors. -/
structure AlikeButLevel (left right : Source) : Prop where
  logFile : left.find? "CALC_LOG_FILE" = right.find? "CALC_LOG_FILE"
  errorText : left.find? "CALC_ERROR_TEXT" = right.find? "CALC_ERROR_TEXT"

instance (left right : Source) : Decidable (AlikeButLevel left right) :=
  decidable_of_iff
    (left.find? "CALC_LOG_FILE" = right.find? "CALC_LOG_FILE" ∧
      left.find? "CALC_ERROR_TEXT" = right.find? "CALC_ERROR_TEXT")
    ⟨fun both => ⟨both.1, both.2⟩, fun alike => ⟨alike.logFile, alike.errorText⟩⟩

variable {left right leftFile rightFile file : Source}

/-- Environments and files that are alike but for the level give settings alike. -/
theorem load_alike
    (environments : AlikeButLevel left right)
    (files : AlikeButLevel leftFile rightFile) :
    (∃ complaints,
        load left leftFile = .error complaints ∧
          load right rightFile = .error complaints) ∨
      ∃ leftSettings rightSettings,
        load left leftFile = .ok leftSettings ∧
          load right rightFile = .ok rightSettings ∧
            leftSettings.logFile = rightSettings.logFile ∧
              leftSettings.errorText = rightSettings.errorText := by
  rw [load, load]
  simp only [environments.logFile, environments.errorText, files.logFile,
    files.errorText, checked]
  split
  · exact Or.inr ⟨_, _, rfl, rfl, rfl, rfl⟩
  · exact Or.inl ⟨_, rfl, rfl⟩

/-- The environment comes before the settings file. -/
theorem logLevel_of_load
    {level : Text}
    {settings : Settings}
    (loaded : load left file = .ok settings)
    (given : left.find? "CALC_LOG_LEVEL" = some level) :
    settings.logLevel = level := by
  rw [load] at loaded
  simp only [given, checked] at loaded
  split at loaded
  · cases loaded
    rfl
  · cases loaded

end Settings

/-! ## Sessions with other settings -/

section Sessions

variable
  {session : Session}
  {settings : Settings}
  (same : settings.errorText = session.settings.errorText)

include same

/-- Of its settings a session uses the text for errors only. -/
theorem Session.pressAll_of_errorText (tokens : List Text) :
    Session.pressAll { session with settings := settings } tokens =
      ({ (session.pressAll tokens).1 with settings := settings },
        (session.pressAll tokens).2) := by
  rw [pressAll, pressAll, same]

theorem Script.replay_of_errorText (lines : List Text) :
    Script.replay { session with settings := settings } lines =
      ({ (Script.replay session lines).1 with settings := settings },
        (Script.replay session lines).2) := by
  induction lines generalizing session with
  | nil => rfl
  | cons line rest ih =>
      have pressed :=
        Session.pressAll_of_errorText same (Script.splitKeys line)
      have later :
          settings.errorText =
            (session.pressAll (Script.splitKeys line)).1.settings.errorText :=
        same
      simp only [Script.replay, Script.replayLine, pressed, ih later]
      rfl

end Sessions

/-! ## Courses of a run -/

/-- A run but for its threshold: how it ends, all that it tells, and the files. -/
structure Course where
  ending : Except RunFault (Nat × Text)
  notices : List Notice
  store : Store

/-- The run with a log at a threshold. -/
def Course.loggedAt (course : Course) (threshold : Level) :
    Except Interruption Report :=
  let log := Notice.log threshold course.notices
  match course.ending with
  | .ok (status, output) =>
      .ok { status := status, output := output, log := log, store := course.store }
  | .error fault =>
      .error { fault := fault, log := log, store := course.store }

section Courses

variable
  (session : Session)
  (host : Host)
  (path : Path)
  (bytes : List UInt8)
  (input : Text)
  (store : Store)

theorem exists_course_of_input :
    ∃ course : Course,
      ∀ (settings : Settings) (threshold : Level),
        settings.errorText = session.settings.errorText →
          .ok
              (runInteractive { session with settings := settings }
                ⟨threshold, none⟩ input store) =
            course.loggedAt threshold := by
  let lines := Text.stripLines (Text.streamLines input)
  let replayed := Script.replay session lines
  refine
    ⟨{ ending :=
          .ok
            (0,
              Text.asLines
                (replayed.2.1.map Script.Step.display ++
                  [Script.historyHeading] ++ replayed.1.historyLines))
       notices := replayed.2.2
       store := store }, ?_⟩
  intro settings threshold same
  rw [runInteractive, Script.replay_of_errorText same]
  rfl

theorem exists_course_of_script :
    ∃ course : Course,
      ∀ (settings : Settings) (threshold : Level),
        settings.errorText = session.settings.errorText →
          attemptScript host { session with settings := settings }
              ⟨threshold, none⟩ path bytes store =
            course.loggedAt threshold := by
  cases read : Script.readContent host store path bytes with
  | error fault =>
      cases fault with
      | file fault =>
          refine ⟨⟨.error (.file fault), [], store⟩, ?_⟩
          intro settings threshold _
          rw [attemptScript, read]
          rfl
      | foreign fault =>
          refine ⟨⟨.error (.foreign fault), [], store⟩, ?_⟩
          intro settings threshold _
          rw [attemptScript, read]
          rfl
      | script fault =>
          refine
            ⟨⟨.ok (1, []), [.notReplayed path.render fault.message], store⟩, ?_⟩
          intro settings threshold _
          rw [attemptScript, read]
          rfl
  | ok script =>
      let replayed := Script.replay session (Script.keyLines script)
      let transcript := Script.transcript replayed.2.1 replayed.1.historyLines
      cases named : Script.transcriptPath path with
      | error nameless =>
          refine ⟨⟨.error (.namelessPath nameless), replayed.2.2, store⟩, ?_⟩
          intro settings threshold same
          rw [attemptScript, read]
          dsimp only
          rw [Script.replay_of_errorText same, named]
          rfl
      | ok output =>
          cases placed : store.target output with
          | error fault =>
              refine ⟨⟨.error (.file fault), replayed.2.2, store⟩, ?_⟩
              intro settings threshold same
              rw [attemptScript, read]
              dsimp only
              rw [Script.replay_of_errorText same, named]
              dsimp only [LogTarget.write]
              rw [placed]
              rfl
          | ok place =>
              refine
                ⟨⟨.ok (0, transcript),
                    replayed.2.2 ++ [.transcriptWritten output.render],
                    store.write place transcript⟩, ?_⟩
              intro settings threshold same
              rw [attemptScript, read]
              dsimp only
              rw [Script.replay_of_errorText same, named]
              dsimp only [LogTarget.write]
              rw [placed]
              rfl

/-- Without a log file the text for errors settles the course of a run. -/
theorem exists_course_of_arguments (invocation : Invocation) :
    ∃ course : Course,
      ∀ (settings : Settings) (threshold : Level),
        settings.errorText = session.settings.errorText →
          invocation.proceed { session with settings := settings }
              ⟨threshold, none⟩ store =
            course.loggedAt threshold := by
  cases asked : Arguments.request invocation.arguments with
  | help =>
      refine ⟨⟨.ok (0, Invocation.helpText), [], store⟩, ?_⟩
      intro settings threshold _
      rw [Invocation.proceed, asked]
      rfl
  | refused =>
      refine ⟨⟨.ok (2, []), [], store⟩, ?_⟩
      intro settings threshold _
      rw [Invocation.proceed, asked]
      rfl
  | interactive =>
      rcases exists_course_of_input session invocation.input store with
        ⟨course, typed⟩
      refine ⟨course, ?_⟩
      intro settings threshold same
      rw [Invocation.proceed, asked]
      exact typed settings threshold same
  | script text =>
      cases found : store.file? (.ofText text) with
      | error fault =>
          refine ⟨⟨.error (.file fault), [], store⟩, ?_⟩
          intro settings threshold _
          rw [Invocation.proceed, asked]
          dsimp only
          rw [found]
          rfl
      | ok there =>
          cases there with
          | none =>
              refine ⟨⟨.ok (2, []), [], store⟩, ?_⟩
              intro settings threshold _
              rw [Invocation.proceed, asked]
              dsimp only
              rw [found]
              rfl
          | some bytes =>
              rcases
                  exists_course_of_script session invocation.host (.ofText text)
                    bytes store with
                ⟨course, replayed⟩
              refine ⟨course, ?_⟩
              intro settings threshold same
              rw [Invocation.proceed, asked]
              dsimp only
              rw [found]
              exact replayed settings threshold same

end Courses

/-! ## Whole runs -/

namespace Invocation

/--
The invocations differ in the level of the log only.  The settings file gives the
same other settings in both environments: it can refer to the level.
-/
structure AlikeButLevel (left right : Invocation) : Prop where
  host : left.host = right.host
  arguments : left.arguments = right.arguments
  input : left.input = right.input
  store : left.store = right.store
  environment :
    ∀ name : String,
      name.toList.map Char.toUpper ≠ "CALC_LOG_LEVEL".toList →
        left.environment.find? name = right.environment.find? name
  settingsFile :
    ∀ leftFile rightFile,
      left.fileSettings = .ok leftFile →
        right.fileSettings = .ok rightFile →
          Settings.AlikeButLevel leftFile rightFile

/-- The settings of a run name no file for the log. -/
def NamesNoLogFile (invocation : Invocation) : Prop :=
  ∀ settings, invocation.settings = .ok settings → settings.logFile = none

/-- The settings of a run name a level, known or not, and nothing else. -/
def NamesLevel (invocation : Invocation) : Prop :=
  ∀ settings,
    invocation.settings = .ok settings →
      ∃ level, settings.threshold = .ok level

/-- What a run leaves behind besides its log. -/
def effect (invocation : Invocation) :
    Except (RunFault × Store) (Nat × Text × Store) :=
  match invocation.attempt with
  | .ok report => .ok (report.status, report.output, report.store)
  | .error interruption => .error (interruption.fault, interruption.store)

/-- The lines of the log of a run, also of one that was interrupted. -/
def log (invocation : Invocation) : List Text :=
  match invocation.attempt with
  | .ok report => report.log
  | .error interruption => interruption.log

section Thresholds

variable
  {invocation : Invocation}
  {settings : Settings}
  {level : Text}

theorem exists_load_of_settings (loaded : invocation.settings = .ok settings) :
    ∃ file, Settings.load invocation.environment file = .ok settings := by
  rw [Invocation.settings] at loaded
  split at loaded
  · cases loaded
  · rename_i file _
    rw [mapError_eq_ok_iff] at loaded
    exact ⟨file, loaded⟩

theorem threshold_of_settings
    (loaded : invocation.settings = .ok settings)
    (given : invocation.environment.find? "CALC_LOG_LEVEL" = some level) :
    settings.threshold = Level.ofSetting level := by
  rcases exists_load_of_settings loaded with ⟨file, found⟩
  rw [Settings.threshold, Settings.logLevel_of_load found given]

/-- A run without a log file proceeds as soon as its settings are loaded. -/
theorem attempt_of_settings
    {threshold : Level}
    (loaded : invocation.settings = .ok settings)
    (noFile : settings.logFile = none)
    (means : settings.threshold = .ok threshold) :
    invocation.attempt =
      invocation.proceed { settings := settings } ⟨threshold, none⟩
        invocation.store := by
  rw [attempt, loaded]
  dsimp only
  rw [LogTarget.opened, means]
  dsimp only
  rw [noFile]

end Thresholds

section Alike

variable
  {left right : Invocation}
  (alike : left.AlikeButLevel right)

include alike

theorem AlikeButLevel.environments_alike :
    Settings.AlikeButLevel left.environment right.environment where
  logFile := alike.environment "CALC_LOG_FILE" (by decide)
  errorText := alike.environment "CALC_ERROR_TEXT" (by decide)

theorem AlikeButLevel.fileSettings_alike :
    (∃ fault,
        left.fileSettings = .error fault ∧
          right.fileSettings = .error fault) ∨
      ∃ leftFile rightFile,
        left.fileSettings = .ok leftFile ∧
          right.fileSettings = .ok rightFile := by
  rw [fileSettings, fileSettings, alike.store]
  split
  · exact .inl ⟨_, rfl, rfl⟩
  · exact .inr ⟨_, _, rfl, rfl⟩
  · split
    · exact .inr ⟨_, _, rfl, rfl⟩
    · exact .inl ⟨_, rfl, rfl⟩

theorem AlikeButLevel.settings_alike :
    (∃ fault, left.settings = .error fault ∧ right.settings = .error fault) ∨
      ∃ leftSettings rightSettings,
        left.settings = .ok leftSettings ∧
          right.settings = .ok rightSettings ∧
            leftSettings.logFile = rightSettings.logFile ∧
              leftSettings.errorText = rightSettings.errorText := by
  rw [settings, settings]
  rcases alike.fileSettings_alike with
    ⟨fault, leftFailed, rightFailed⟩ |
      ⟨leftFile, rightFile, leftFound, rightFound⟩
  · rw [leftFailed, rightFailed]
    exact .inl ⟨fault, rfl, rfl⟩
  · rw [leftFound, rightFound]
    rcases
        Settings.load_alike alike.environments_alike
          (alike.settingsFile leftFile rightFile leftFound rightFound) with
      ⟨complaints, leftLoaded, rightLoaded⟩ |
        ⟨leftSettings, rightSettings, leftLoaded, rightLoaded, same⟩
    · dsimp only
      rw [leftLoaded, rightLoaded]
      exact .inl ⟨_, rfl, rfl⟩
    · dsimp only
      rw [leftLoaded, rightLoaded]
      exact .inr ⟨leftSettings, rightSettings, rfl, rfl, same⟩

theorem AlikeButLevel.proceed_eq
    (session : Session)
    (target : LogTarget)
    (store : Store) :
    left.proceed session target store = right.proceed session target store := by
  rw [proceed, proceed, alike.host, alike.arguments, alike.input]

/--
Both runs are interrupted before anything is logged, or they take one course
and log it at the thresholds of their settings.
-/
theorem AlikeButLevel.attempt_alike
    (noFile : left.NamesNoLogFile)
    (leftNames : left.NamesLevel)
    (rightNames : right.NamesLevel) :
    (∃ interruption,
        interruption.log = [] ∧
          left.attempt = .error interruption ∧
            right.attempt = .error interruption) ∨
      ∃ (course : Course) (leftSettings rightSettings : Settings)
          (leftLevel rightLevel : Level),
        (left.settings = .ok leftSettings ∧
            leftSettings.threshold = .ok leftLevel ∧
              left.attempt = course.loggedAt leftLevel) ∧
          right.settings = .ok rightSettings ∧
            rightSettings.threshold = .ok rightLevel ∧
              right.attempt = course.loggedAt rightLevel := by
  rcases alike.settings_alike with
    ⟨fault, leftLoaded, rightLoaded⟩ |
      ⟨leftSettings, rightSettings, leftLoaded, rightLoaded, sameFile, sameText⟩
  · left
    rw [attempt, attempt, leftLoaded, rightLoaded, alike.store]
    exact ⟨_, rfl, rfl, rfl⟩
  · right
    rcases leftNames leftSettings leftLoaded with ⟨leftLevel, leftMeans⟩
    rcases rightNames rightSettings rightLoaded with ⟨rightLevel, rightMeans⟩
    have leftFile := noFile leftSettings leftLoaded
    have rightFile := sameFile.symm.trans leftFile
    let session : Session := { settings := rightSettings }
    rcases exists_course_of_arguments session right.store right with
      ⟨course, proceeds⟩
    refine
      ⟨course, leftSettings, rightSettings, leftLevel, rightLevel,
        ⟨leftLoaded, leftMeans, ?_⟩, rightLoaded, rightMeans, ?_⟩
    · rw [attempt_of_settings leftLoaded leftFile leftMeans, alike.proceed_eq,
        alike.store]
      exact proceeds leftSettings leftLevel sameText
    · rw [attempt_of_settings rightLoaded rightFile rightMeans]
      exact proceeds rightSettings rightLevel rfl

end Alike

end Invocation

namespace Course

variable
  (course : Course)
  (invocation : Invocation)
  (threshold : Level)

theorem effect_of_loggedAt
    (takes : invocation.attempt = course.loggedAt threshold) :
    invocation.effect =
      match course.ending with
      | .ok (status, output) => .ok (status, output, course.store)
      | .error fault => .error (fault, course.store) := by
  rw [Invocation.effect, takes, loggedAt]
  cases course.ending <;> rfl

theorem log_of_loggedAt
    (takes : invocation.attempt = course.loggedAt threshold) :
    invocation.log = Notice.log threshold course.notices := by
  rw [Invocation.log, takes, loggedAt]
  cases course.ending <;> rfl

end Course

/--
The level of the log changes the log only.  Two runs without a log file whose
invocations differ in the level only leave the same status, output and files,
or the same fault and files.  The log at any level is what the log of the run at
`debug` has of the levels that its threshold lets through, in the same order.
The threshold is the one that the upper case of the setting names; a setting
means none only if it names something else.
-/
theorem log_level_changes_only_the_log
    {left right : Invocation}
    (alike : left.AlikeButLevel right)
    (noFile : left.NamesNoLogFile)
    (leftNames : left.NamesLevel)
    (rightNames : right.NamesLevel) :
    left.effect = right.effect ∧
      (∀ (level debugging : Text) (threshold : Level),
        left.environment.find? "CALC_LOG_LEVEL" = some level →
          right.environment.find? "CALC_LOG_LEVEL" = some debugging →
            Level.ofSetting level = .ok threshold →
              Level.ofSetting debugging = .ok .debug →
                left.log = right.log.filter threshold.admits) ∧
        ∀ setting : Text,
          (∃ threshold,
              Level.ofSetting setting = .ok threshold ∧
                Level.NamedBy (Level.upper setting) threshold) ∨
            ∃ none : NoLevel, Level.upper setting = none.name.toList := by
  refine ⟨?_, ?_, ?_⟩
  · rcases alike.attempt_alike noFile leftNames rightNames with
      ⟨interruption, _, leftRan, rightRan⟩ |
        ⟨course, _, _, _, _, ⟨_, _, leftRan⟩, _, _, rightRan⟩
    · rw [Invocation.effect, Invocation.effect, leftRan, rightRan]
    · rw [course.effect_of_loggedAt left _ leftRan,
        course.effect_of_loggedAt right _ rightRan]
  · intro level debugging threshold leftGiven rightGiven leftMeans rightMeans
    rcases alike.attempt_alike noFile leftNames rightNames with
      ⟨interruption, unlogged, leftRan, rightRan⟩ |
        ⟨course, leftSettings, rightSettings, leftLevel, rightLevel,
          ⟨leftLoaded, leftFound, leftRan⟩, rightLoaded, rightFound, rightRan⟩
    · rw [Invocation.log, Invocation.log, leftRan, rightRan]
      dsimp only
      rw [unlogged, List.filter_nil]
    · rw [Invocation.threshold_of_settings leftLoaded leftGiven, leftMeans]
        at leftFound
      rw [Invocation.threshold_of_settings rightLoaded rightGiven, rightMeans]
        at rightFound
      cases leftFound
      cases rightFound
      rw [course.log_of_loggedAt left _ leftRan,
        course.log_of_loggedAt right _ rightRan, Notice.log_eq_filter]
  · intro setting
    cases means : Level.ofSetting setting with
    | ok threshold =>
        exact .inl ⟨threshold, rfl, Level.namedBy_of_ofSetting means⟩
    | error none => exact .inr ⟨none, Level.eq_name_of_ofSetting means⟩

/-- A warning and then an interruption, at two levels. -/
theorem log_level_changes_only_the_log_of_an_interrupted_run :
    let store : Store :=
      { entries :=
          [(["keys.txt".toList], .file (Utf8.encode "1+1= z".toList)),
            (["keys_txt_results.txt".toList], .directory)] }
    let start (level : Text) : Invocation :=
      { host := Catalogue.host []
        arguments := ["keys.txt".toList]
        input := []
        environment := [("CALC_LOG_LEVEL".toList, level)]
        store := store }
    ((start "Warn").AlikeButLevel (start "debug") ∧
        (start "Warn").NamesNoLogFile ∧
          (start "Warn").NamesLevel ∧ (start "debug").NamesLevel) ∧
      (start "Warn").effect = (start "debug").effect ∧
        (start "Warn").run.toOption = none ∧
          (start "Warn").log =
              (start "debug").log.filter Level.warning.admits ∧
            (start "Warn").log.length = 1 ∧
              (start "debug").log.length = 4 := by
  intro store start
  have alike : (start "Warn").AlikeButLevel (start "debug") := by
    refine ⟨rfl, rfl, rfl, rfl, ?_, ?_⟩
    · intro name other
      have level (value : Text) :
          Settings.Source.find? [("CALC_LOG_LEVEL".toList, value)] name =
            none := by
        have unnamed :
            "CALC_LOG_LEVEL".toList.map Char.toUpper ≠
              name.toList.map Char.toUpper :=
          Ne.symm other
        simp only [Settings.Source.find?]
        rw [List.find?_eq_none.mpr]
        · rfl
        · simpa using unnamed
      exact (level "Warn").trans (level "debug").symm
    · intro leftFile rightFile leftGiven rightGiven
      cases leftGiven
      cases rightGiven
      exact ⟨rfl, rfl⟩
  have loaded (level : Text) :
      (start level).settings = .ok { logLevel := level } := by
    rfl
  have noFile : (start "Warn").NamesNoLogFile := by
    intro settings found
    cases (loaded "Warn").symm.trans found
    rfl
  have warns : Level.ofSetting "Warn" = .ok .warning := by
    rfl
  have debugs : Level.ofSetting "debug" = .ok .debug := by
    rfl
  have names (level : Text) (threshold : Level)
      (means : Level.ofSetting level = .ok threshold) :
      (start level).NamesLevel := by
    intro settings found
    cases (loaded level).symm.trans found
    exact ⟨threshold, means⟩
  have leftNames := names "Warn" .warning warns
  have rightNames := names "debug" .debug debugs
  rcases log_level_changes_only_the_log alike noFile leftNames rightNames with
    ⟨sameEffect, filtered, _⟩
  have warned :=
    filtered "Warn" "debug" .warning (by decide +kernel) (by decide +kernel)
      warns debugs
  exact
    ⟨⟨alike, noFile, leftNames, rightNames⟩, sameEffect, by decide +kernel,
      warned, by decide +kernel, by decide +kernel⟩

/-- A settings file that refers to the level shows it instead of a result. -/
theorem log_level_can_reach_the_display :
    let store : Store :=
      { entries :=
          [([".env".toList],
            .file
              (Utf8.encode
                "CALC_ERROR_TEXT=$\x7bCALC_LOG_LEVEL\x7d\n".toList))] }
    let start (level : Text) : Invocation :=
      { host := Catalogue.host []
        arguments := []
        input := "8÷0=\n"
        environment := [("CALC_LOG_LEVEL".toList, level)]
        store := store }
    let ends (level : Text) (output : Text) : Prop :=
      (start level).NamesNoLogFile ∧
        (start level).NamesLevel ∧
          (start level).effect = .ok (0, output, store)
    ends "ERROR" "ERROR\nHistory:\n" ∧ ends "DEBUG" "DEBUG\nHistory:\n" := by
  intro store start ends
  have ended
      (level output : Text)
      (loaded :
        (start level).settings =
          .ok { logLevel := level, errorText := level })
      (threshold : Level)
      (means : Level.ofSetting level = .ok threshold)
      (ran : (start level).effect = .ok (0, output, store)) :
      ends level output := by
    refine ⟨?_, ?_, ran⟩
    · intro settings found
      cases loaded.symm.trans found
      rfl
    · intro settings found
      cases loaded.symm.trans found
      exact ⟨threshold, means⟩
  exact
    ⟨ended "ERROR" _ rfl .error rfl rfl, ended "DEBUG" _ rfl .debug rfl rfl⟩

end PocketCalc
