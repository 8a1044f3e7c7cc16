import ApiDocs.Log.Logger

/-!
# What loggers count and pass on

A logger counts every error that it is told, whether or not the message passes.  What only logs can
thus be judged by its counter.  Loggers that are told the same count the same, and each passes on
those of the messages that reach its threshold.
-/

namespace ApiDocs.Logger

/-- A logger after messages. -/
def logAll (logger : Logger) (messages : List (Level × String)) : Logger :=
  messages.foldl (fun logger message => logger.log message.1 message.2) logger

theorem logAll_append (logger : Logger) (first second : List (Level × String)) :
    logger.logAll (first ++ second) = (logger.logAll first).logAll second :=
  List.foldl_append

theorem errors_log (logger : Logger) (level : Level) (message : String) :
    (logger.log level message).errors = logger.errors + if level = .error then 1 else 0 := by
  have counted : (logger.count level).errors =
      logger.errors + if level = .error then 1 else 0 := by
    cases level <;> rfl
  rw [log]
  split <;> exact counted

/-- The counter tells how many errors have been logged. -/
theorem errors_logAll (logger : Logger) (messages : List (Level × String)) :
    (logger.logAll messages).errors =
      logger.errors + messages.countP fun message => message.1 = .error := by
  induction messages generalizing logger with
  | nil => rfl
  | cons message messages inductionHypothesis =>
      have rest := inductionHypothesis (logger.log message.1 message.2)
      rw [errors_log] at rest
      rw [logAll, List.foldl_cons, List.countP_cons, ← logAll, rest]
      simp only [decide_eq_true_eq]
      omega

theorem warnings_log (logger : Logger) (level : Level) (message : String) :
    (logger.log level message).warnings = logger.warnings + if level = .warn then 1 else 0 := by
  have counted : (logger.count level).warnings =
      logger.warnings + if level = .warn then 1 else 0 := by
    cases level <;> rfl
  rw [log]
  split <;> exact counted

theorem warnings_logAll (logger : Logger) (messages : List (Level × String)) :
    (logger.logAll messages).warnings =
      logger.warnings + messages.countP fun message => message.1 = .warn := by
  induction messages generalizing logger with
  | nil => rfl
  | cons message messages inductionHypothesis =>
      have rest := inductionHypothesis (logger.log message.1 message.2)
      rw [warnings_log] at rest
      rw [logAll, List.foldl_cons, List.countP_cons, ← logAll, rest]
      simp only [decide_eq_true_eq]
      omega

/-- A logger has come from an earlier one by messages alone. -/
def Extends (before after : Logger) : Prop :=
  ∃ messages, after = before.logAll messages

namespace Extends

variable {before middle after : Logger}

theorem refl (logger : Logger) : Extends logger logger :=
  ⟨[], rfl⟩

theorem trans (first : Extends before middle) (second : Extends middle after) :
    Extends before after := by
  obtain ⟨earlier, rfl⟩ := first
  obtain ⟨later, rfl⟩ := second
  exact ⟨earlier ++ later, (logAll_append before earlier later).symm⟩

theorem log (logger : Logger) (level : Level) (message : String) :
    Extends logger (logger.log level message) :=
  ⟨[(level, message)], rfl⟩

end Extends

theorem sink_log (logger : Logger) (level : Level) (message : String) :
    (logger.log level message).sink = logger.sink := by
  have counted : (logger.count level).sink = logger.sink := by cases level <;> rfl
  rw [log]
  split <;> exact counted

theorem sink_logAll (logger : Logger) (messages : List (Level × String)) :
    (logger.logAll messages).sink = logger.sink := by
  induction messages generalizing logger with
  | nil => rfl
  | cons message messages inductionHypothesis =>
      exact (inductionHypothesis _).trans (sink_log logger message.1 message.2)

theorem passes_log (logger : Logger) (level : Level) (message : String) :
    (logger.log level message).passes = logger.passes := by
  have counted : (logger.count level).threshold = logger.threshold := by cases level <;> rfl
  rw [log]
  split <;> exact funext fun _ => by rw [passes, passes, counted]

theorem passed_log (logger : Logger) (level : Level) (message : String) :
    (logger.log level message).passed =
      logger.passed ++ [(level, message)].filter fun message => logger.passes message.1 := by
  have counted : (logger.count level).passed = logger.passed := by cases level <;> rfl
  rw [log, List.filter_cons, List.filter_nil]
  cases logger.passes level with
  | true => exact congrArg (· ++ [(level, message)]) counted
  | false => exact counted.trans (List.append_nil logger.passed).symm

/-- The messages that reach the threshold are passed on, in their order. -/
theorem passed_logAll (logger : Logger) (messages : List (Level × String)) :
    (logger.logAll messages).passed =
      logger.passed ++ messages.filter fun message => logger.passes message.1 := by
  induction messages generalizing logger with
  | nil => exact (List.append_nil logger.passed).symm
  | cons message messages inductionHypothesis =>
      have rest := inductionHypothesis (logger.log message.1 message.2)
      rw [passes_log, passed_log, List.append_assoc, ← List.filter_append] at rest
      exact rest

/-! ## Loggers beside each other -/

/-- Two loggers have come from two earlier ones by the same messages. -/
def Parallel (base base' first second : Logger) : Prop :=
  ∃ messages, first = base.logAll messages ∧ second = base'.logAll messages

namespace Parallel

variable {base base' first second : Logger}

theorem logAll (parallel : Parallel base base' first second) (messages : List (Level × String)) :
    Parallel base base' (first.logAll messages) (second.logAll messages) := by
  obtain ⟨earlier, rfl, rfl⟩ := parallel
  exact ⟨earlier ++ messages, (logAll_append base earlier messages).symm,
    (logAll_append base' earlier messages).symm⟩

theorem log (parallel : Parallel base base' first second) (level : Level) (message : String) :
    Parallel base base' (first.log level message) (second.log level message) :=
  parallel.logAll [(level, message)]

theorem errors_eq (parallel : Parallel base base' first second)
    (sameErrors : base'.errors = base.errors) : second.errors = first.errors := by
  obtain ⟨messages, rfl, rfl⟩ := parallel
  rw [errors_logAll, errors_logAll, sameErrors]

theorem warnings_eq (parallel : Parallel base base' first second)
    (sameWarnings : base'.warnings = base.warnings) : second.warnings = first.warnings := by
  obtain ⟨messages, rfl, rfl⟩ := parallel
  rw [warnings_logAll, warnings_logAll, sameWarnings]

end Parallel

end ApiDocs.Logger
