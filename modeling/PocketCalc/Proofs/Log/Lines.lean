import PocketCalc.Notice

/-!
# The lines of a log

A line of a log begins with the name of its level between brackets, and no line
begins like those of two levels.  So the level of a notice can be read off its
line: the log at any threshold is what the log at `debug` has of the levels that
it lets through, and the texts of one level can be taken out of a log.
-/

namespace PocketCalc

namespace Level

/-- All levels, from least to most. -/
def all : List Level :=
  [debug, info, warning, error, critical]

/-- The beginning of the lines of a level. -/
def mark (level : Level) : Text :=
  '[' :: level.name.toList ++ [']', ' ']

/-- Whether a line is one of a level. -/
def marks (level : Level) (line : Text) : Bool :=
  level.mark.isPrefixOf line

/-- Whether a line is one of a level that a threshold lets through. -/
def admits (threshold : Level) (line : Text) : Bool :=
  all.any fun level => threshold.rank ≤ level.rank && level.marks line

/-- The texts of a level in a log, in their order and without the marks. -/
def texts (level : Level) (log : List Text) : List Text :=
  (log.filter level.marks).map (·.drop level.mark.length)

theorem mem_all (level : Level) : level ∈ all := by
  cases level <;> decide

theorem logLine_eq (notice : Notice) :
    notice.logLine = notice.level.mark ++ notice.message :=
  rfl

/-- No beginning of a line is a beginning of the lines of another level. -/
theorem marks_mark_append (level other : Level) (text : Text) :
    level.marks (other.mark ++ text) = decide (level = other) := by
  cases level <;> cases other <;> rfl

theorem marks_logLine (level : Level) (notice : Notice) :
    level.marks notice.logLine = decide (level = notice.level) := by
  rw [logLine_eq, marks_mark_append]

theorem admits_logLine (threshold : Level) (notice : Notice) :
    threshold.admits notice.logLine = Notice.passes threshold notice := by
  rw [Bool.eq_iff_iff, admits, List.any_eq_true, Notice.passes,
    decide_eq_true_eq]
  simp only [Bool.and_eq_true, decide_eq_true_eq, marks_logLine]
  constructor
  · rintro ⟨level, _, passes, rfl⟩
    exact passes
  · intro passes
    exact ⟨notice.level, mem_all notice.level, passes, rfl⟩

end Level

namespace Notice

/-- Every notice passes the threshold `debug`. -/
theorem log_debug (notices : List Notice) :
    log .debug notices = notices.map logLine := by
  rw [log, List.filter_eq_self.mpr]
  intro notice _
  exact decide_eq_true (Nat.zero_le _)

/-- A log is what the log at `debug` has of the levels that it lets through. -/
theorem log_eq_filter (threshold : Level) (notices : List Notice) :
    log threshold notices = (log .debug notices).filter threshold.admits := by
  rw [log_debug, List.filter_map, log]
  congr 1
  apply List.filter_congr
  intro notice _
  exact (threshold.admits_logLine notice).symm

end Notice

/-- The texts of a level are those of its notices. -/
theorem Level.texts_log (level : Level) (notices : List Notice) :
    level.texts (Notice.log .debug notices) =
      (notices.filter fun notice => level = notice.level).map
        Notice.message := by
  have ofLevel :
      level.marks ∘ Notice.logLine =
        fun notice => decide (level = notice.level) :=
    funext level.marks_logLine
  rw [texts, Notice.log_debug, List.filter_map, ofLevel, List.map_map]
  apply List.map_congr_left
  intro notice member
  have same : level = notice.level :=
    of_decide_eq_true (List.mem_filter.mp member).2
  rw [Function.comp_apply, logLine_eq, same, List.drop_left]

end PocketCalc
