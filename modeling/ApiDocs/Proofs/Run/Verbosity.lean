import ApiDocs.Proofs.Convert.Verbosity
import ApiDocs.Proofs.Plugins.Verbosity
import ApiDocs.Proofs.Run.ExitCode
import ApiDocs.Proofs.Run.Preparation

/-!
# Verbosity only filters messages

Two runs that differ only in the logger and its level go the same way: both are told the same
messages, build the same model and leave the same files.  The settings decide which of the messages
are written.
-/

namespace ApiDocs.Application

open ApiDocs.Computation

variable {Observed : Type}

/-- The messages that have been written to the console, by all loggers. -/
def written (application : Application Observed) : List (Level × String) :=
  application.output ++ Console.shown application.logger

theorem console_eq (application : Application Observed) :
    application.console = Console.outputOf false application.written := by
  rw [console, Console.output, written, Console.outputOf, Console.outputOf, Console.outputOf,
    List.map_append, String.join_append]

/-! ## Fresh loggers -/

theorem freshLogger_warnings (options : Options) : (freshLogger options).warnings = 0 := by
  rw [freshLogger, Logger.ofName]
  split <;> rfl

/-- A logger that is silent shows nothing. -/
theorem shown_of_none {options : Options} (isNone : options.textOf .logger = "none")
    (messages : List (Level × String)) :
    Console.shown ((freshLogger options).logAll messages) = [] := by
  have silent : (freshLogger options).sink = .silent := by
    rw [freshLogger, Logger.ofName, if_pos isNone]
    rfl
  rw [Console.shown, Logger.sink_logAll, silent]

/-- The console shows the messages that reach the level. -/
theorem shown_of_console {options : Options} (isConsole : options.textOf .logger = "console")
    {level : Level} (isLevel : options.textOf .logLevel = level.word)
    (messages : List (Level × String)) :
    Console.shown ((freshLogger options).logAll messages) =
      messages.filter fun message => level.rank ≤ message.1.rank := by
  have fresh : freshLogger options = .new .console level := by
    rw [freshLogger, Logger.ofName, isConsole, isLevel]
    cases level <;> rfl
  rw [Console.shown, Logger.sink_logAll, fresh]
  exact Logger.passed_logAll _ messages

/-! ## Runs beside each other -/

/-- Two loggers that begin with the same counts.  Once the loggers of two runs are replaced, they
are those that the settings ask for. -/
structure Bases (replaced : Prop) (options options' : Options) (base base' : Logger) : Prop where
  errors : base'.errors = base.errors
  warnings : base'.warnings = base.warnings
  fresh : replaced → base = freshLogger options ∧ base' = freshLogger options'

theorem Bases.freshLogger {replaced : Prop} (options options' : Options) :
    Bases replaced options options' (freshLogger options) (freshLogger options') where
  errors := (freshLogger_errors _).trans (freshLogger_errors _).symm
  warnings := (freshLogger_warnings _).trans (freshLogger_warnings _).symm
  fresh _ := ⟨rfl, rfl⟩

/-- Two runs are the same but for which messages are written, and all their loggers have been told
the same. -/
def SameButVerbosity (replaced : Prop) (first second : Application Observed) : Prop :=
  ∃ options logger base base', second = { first with options, logger } ∧
    first.options.SameButVerbosity options ∧ Bases replaced first.options options base base' ∧
      Logger.Parallel base base' first.logger logger ∧ first.output = []

/-- Two runs are the same but for which messages are written, and no listener asks for that. -/
structure Beside (replaced : Prop) (first second : Application Observed) : Prop where
  same : SameButVerbosity replaced first second
  ignores : Site.IgnoresVerbosity first.listeners.hooks

variable {replaced : Prop} {first second : Application Observed}

namespace SameButVerbosity

theorem rest_eq (same : SameButVerbosity replaced first second) :
    second = { first with options := second.options, logger := second.logger } := by
  obtain ⟨options, logger, _, _, rfl, _⟩ := same
  rfl

theorem options (same : SameButVerbosity replaced first second) :
    first.options.SameButVerbosity second.options := by
  obtain ⟨options, logger, _, _, rfl, sameOptions, _⟩ := same
  exact sameOptions

theorem errors_eq (same : SameButVerbosity replaced first second) :
    second.logger.errors = first.logger.errors := by
  obtain ⟨options, logger, _, _, rfl, _, bases, parallel, _⟩ := same
  exact parallel.errors_eq bases.errors

theorem warnings_eq (same : SameButVerbosity replaced first second) :
    second.logger.warnings = first.logger.warnings := by
  obtain ⟨options, logger, _, _, rfl, _, bases, parallel, _⟩ := same
  exact parallel.warnings_eq bases.warnings

theorem hasErrors_eq (same : SameButVerbosity replaced first second) :
    second.logger.hasErrors = first.logger.hasErrors := by
  rw [Logger.hasErrors, same.errors_eq, Logger.hasErrors]

/-- Messages reach both runs. -/
theorem told (same : SameButVerbosity replaced first second) (level : Level) (message : String) :
    SameButVerbosity replaced (first.told level message) (second.told level message) := by
  obtain ⟨options, logger, base, base', rfl, sameOptions, bases, parallel, noOutput⟩ := same
  exact ⟨options, _, base, base', rfl, sameOptions, bases, parallel.log level message, noOutput⟩

/-! ## Preparations -/

theorem withListeners (same : SameButVerbosity replaced first second)
    (listeners : Listeners Observed) (loaded : List String) :
    SameButVerbosity replaced { first with listeners, loaded }
      { second with listeners, loaded } := by
  obtain ⟨options, logger, base, base', rfl, sameOptions, bases, parallel, noOutput⟩ := same
  exact ⟨options, logger, base, base', rfl, sameOptions, bases, parallel, noOutput⟩

theorem equipped (same : SameButVerbosity replaced first second) (name : String) :
    SameButVerbosity replaced (first.equipped name) (second.equipped name) := by
  have sameLoader : loaderOf second name = loaderOf first name := by
    rw [same.rest_eq]
    rfl
  have sameListeners : second.listeners = first.listeners := by rw [same.rest_eq]
  have sameLoaded : second.loaded = first.loaded := by rw [same.rest_eq]
  rw [Application.equipped, Application.equipped, sameLoader]
  cases loaderOf first name with
  | error fault => exact same.told _ _
  | ok load =>
      dsimp only
      rw [sameListeners, sameLoaded]
      rcases load.run first.listeners with ⟨_ | _, listeners⟩
      · exact (same.withListeners listeners first.loaded).told _ _
      · exact (same.withListeners listeners (first.loaded ++ [name])).told _ _

theorem equippedAll (same : SameButVerbosity replaced first second) (names : List String) :
    SameButVerbosity replaced (first.equippedAll names) (second.equippedAll names) := by
  induction names generalizing first second with
  | nil => exact same
  | cons name names inductionHypothesis =>
      have sameLoaded : second.loaded = first.loaded := by rw [same.rest_eq]
      rw [Application.equippedAll, Application.equippedAll, List.foldl_cons, List.foldl_cons,
        sameLoaded]
      split
      · exact inductionHypothesis same
      · exact inductionHypothesis (same.equipped name)

theorem loadPlugins_agrees (same : SameButVerbosity replaced first second) :
    Agree (SameButVerbosity replaced) loadPlugins loadPlugins first second := by
  obtain ⟨options, logger, base, base', rfl, sameOptions, bases, parallel, noOutput⟩ := same
  rw [Agree, loadPlugins_run, loadPlugins_run]
  dsimp only
  rw [sameOptions.textsOf (Eq.refl OptionName.plugins.isVerbosity)]
  rcases first.registry.registerAll Plugin.builtIn with ⟨registry, fault?⟩
  have registered : SameButVerbosity replaced { first with registry }
      { first with registry, options, logger } :=
    ⟨options, logger, base, base', rfl, sameOptions, bases, parallel, noOutput⟩
  cases fault? with
  | none => exact ⟨rfl, registered.equippedAll _⟩
  | some fault => exact ⟨rfl, registered⟩

end SameButVerbosity

/-- What a preparation goes by, apart from which messages are written: the entries of the
configuration file and over them the given ones, and the problem with the file. -/
def essentials (environment : Environment) (disk : Disk) (given : List (Value × Value))
    (config : Option String) : Except Failure (List (Value × Value) × List String) :=
  (layerOf environment disk (configPath? disk config)).map fun layered =>
    (decisive environment.platform.showingRoom (mergeValues layered.1 given), layered.2)

/-- Preparations go by the same if the given entries differ only in the two options and none of
these is refused. -/
theorem essentials_eq_of_given {environment : Environment} {disk : Disk}
    {given given' : List (Value × Value)} {config : Option String}
    (configured : ∀ layer unloaded,
      layerOf environment disk (configPath? disk config) = .ok (layer, unloaded) →
        ∀ entry ∈ layer, Settles environment.platform.showingRoom entry)
    (settle : ∀ entry ∈ given, Settles environment.platform.showingRoom entry)
    (settle' : ∀ entry ∈ given', Settles environment.platform.showingRoom entry)
    (same : given.filter (fun entry => !namesVerbosity entry.1) =
      given'.filter fun entry => !namesVerbosity entry.1) :
    essentials environment disk given config = essentials environment disk given' config := by
  rw [essentials, essentials]
  cases layered : layerOf environment disk (configPath? disk config) with
  | error failure => rfl
  | ok layer =>
      have settleLayer := configured layer.1 layer.2 layered
      simp only [Except.map, decisive_mergeValues settleLayer settle,
        decisive_mergeValues settleLayer settle', same]

/-- A preparation replaces the logger unless something is exhausted with an entry. -/
def Replaces (start : Application Observed) (given : List (Value × Value))
    (config : Option String) : Prop :=
  ∀ exhaustion, ((bootstrap given config).run start).1 ≠ .error (.exhausted exhaustion)

/-- Where the logger is not replaced, a preparation writes nothing. -/
theorem written_of_exhausted {start : Application Observed} {given : List (Value × Value)}
    {config : Option String} {exhaustion : Exhaustion}
    (fails : ((bootstrap given config).run start).1 = .error (.exhausted exhaustion)) :
    ((bootstrap given config).run start).2.written = start.written := by
  cases settles : start.settledOf given config with
  | error failure =>
      obtain ⟨options, boots⟩ := bootstrap_of_settledOf_error settles
      rw [boots]
      rfl
  | ok settled =>
      rw [bootstrap_of_settledOf settles] at fails
      obtain ⟨_, isRegistry⟩ := loadPlugins_fails fails
      cases isRegistry

/-- Preparations that go by the same go the same way. -/
theorem bootstrap_sameButVerbosity
    (environment : Environment) (disk : Disk) (registry : Registry Observed)
    (modules : List (String × PluginModule Observed)) (observed : Observed)
    {given given' : List (Value × Value)} {config config' : Option String}
    (same : essentials environment disk given config = essentials environment disk given' config') :
    let start := Application.initial environment disk registry modules observed
    Agree (SameButVerbosity (Replaces start given config)) (bootstrap given config)
      (bootstrap given' config') start start := by
  intro start
  -- the configuration fails both of them or neither
  cases layered : layerOf environment disk (configPath? disk config) with
  | error failure =>
      cases layered' : layerOf environment disk (configPath? disk config') with
      | ok layer =>
          rw [essentials, essentials, layered, layered'] at same
          cases same
      | error failure' =>
          rw [essentials, essentials, layered, layered'] at same
          obtain rfl : failure = failure' := Except.error.inj same
          have boots : (bootstrap given config).run start = _ := bootstrap_of_failure given layered
          have boots' : (bootstrap given' config').run start = _ :=
            bootstrap_of_failure given' layered'
          rw [Agree, boots, boots']
          exact ⟨rfl, start.options, start.logger, _, _, rfl, rfl, .freshLogger _ _,
            ⟨[], rfl, rfl⟩, rfl⟩
  | ok layer =>
      cases layered' : layerOf environment disk (configPath? disk config') with
      | error failure' =>
          rw [essentials, essentials, layered, layered'] at same
          cases same
      | ok layer' =>
          rw [essentials, essentials, layered, layered'] at same
          obtain ⟨sameEntries, sameProblem⟩ := Prod.mk.inj (Except.ok.inj same)
          change decisive start.room _ = decisive start.room _ at sameEntries
          have sameExhausts := findSome?_of_decisive sameEntries
          cases exhausts : (mergeValues layer.1 given).findSome? (entryExhausts? start.room) with
          | some exhaustion =>
              have sameTold :
                  decisive start.room (tellable start.room (mergeValues layer.1 given)) =
                    decisive start.room (tellable start.room (mergeValues layer'.1 given')) := by
                rw [decisive_tellable, sameEntries, decisive_tellable]
              have sameOptions := (applySettings_sameButVerbosity sameTold start.options).1
              have boots : (bootstrap given config).run start = _ :=
                bootstrap_of_exhausted given layered exhausts
              have boots' : (bootstrap given' config').run start = _ :=
                bootstrap_of_exhausted given' layered' (sameExhausts.symm.trans exhausts)
              -- both keep the logger that they began with
              have bases (options options' : Options) :
                  Bases (Replaces start given config) options options' start.logger start.logger :=
                ⟨rfl, rfl, fun replaces => absurd (congrArg Prod.fst boots) (replaces exhaustion)⟩
              rw [Agree, boots, boots']
              exact ⟨rfl, _, _, _, _, rfl, sameOptions, bases _ _, ⟨[], rfl, rfl⟩, rfl⟩
          | none =>
              obtain ⟨sameOptions, sameProblems⟩ :=
                applySettings_sameButVerbosity sameEntries start.options
              have boots : (bootstrap given config).run start = _ :=
                bootstrap_of_layer given layered exhausts
              have boots' : (bootstrap given' config').run start = _ :=
                bootstrap_of_layer given' layered' (sameExhausts.symm.trans exhausts)
              have agrees (problems : List String) :
                  Agree (SameButVerbosity (Replaces start given config)) loadPlugins loadPlugins
                    (prepared start
                      (applySettings start.room start.options (mergeValues layer.1 given)).1
                      problems)
                    (prepared start
                      (applySettings start.room start.options (mergeValues layer'.1 given')).1
                      problems) :=
                SameButVerbosity.loadPlugins_agrees
                  ⟨_, _, _, _, rfl, sameOptions, .freshLogger _ _, ⟨_, rfl, rfl⟩, rfl⟩
              rw [Agree, boots, boots', ← sameProblem, ← sameProblems]
              exact agrees _

/-! ## Stages -/

/-- The converter of a run. -/
abbrev converter (application : Application Observed) : Convert.Converter Observed where
  logger := application.logger
  options := application.options
  environment := application.environment
  disk := application.disk
  hooks := application.listeners.convert
  model := application.model
  observed := application.observed

/-- The renderer of a run. -/
abbrev renderer (application : Application Observed) : Site.Renderer Observed where
  logger := application.logger
  options := application.options
  environment := application.environment
  hooks := application.listeners.hooks
  events := application.listeners.events
  disk := application.disk
  observed := application.observed

namespace Beside

theorem report_agrees (beside : Beside replaced first second) (level : Level) (message : String) :
    Agree (Beside replaced) (report level message) (report level message) first second :=
  ⟨rfl, beside.same.told level message, beside.ignores⟩

theorem hasErrors_agrees (beside : Beside replaced first second) :
    Agree (Beside replaced) CommandLine.hasErrors CommandLine.hasErrors first second := by
  rw [Agree, CommandLine.hasErrors_run, CommandLine.hasErrors_run]
  exact ⟨congrArg Except.ok beside.same.hasErrors_eq.symm, beside⟩

theorem convert_agrees (beside : Beside replaced first second) :
    Agree (Beside replaced) convert convert first second := by
  have sameInputs : second.options.textsOf .inputFiles = first.options.textsOf .inputFiles :=
    beside.same.options.textsOf rfl
  apply agree_get_bind
  dsimp only
  rw [sameInputs]
  generalize first.options.textsOf .inputFiles = inputs
  refine agree_bind (beside.report_agrees _ _) fun {told _} _ beside => ?_
  obtain ⟨same, ignores⟩ := beside
  obtain ⟨options, logger, base, base', rfl, sameOptions, bases, parallel, noOutput⟩ := same
  -- the converters begin with the loggers of the runs, and end with loggers told the same
  have agrees : Agree (Convert.Beside _ _) (Convert.convert inputs) (Convert.convert inputs)
      told.converter (converter { told with options, logger }) :=
    Convert.convert_agrees inputs ⟨options, logger, rfl, sameOptions, parallel⟩
  apply agree_get_bind
  dsimp only
  rw [Agree] at agrees
  rcases ran : (Convert.convert inputs).run told.converter with ⟨outcome, converted⟩
  rcases ran' : (Convert.convert inputs).run (converter { told with options, logger }) with
    ⟨outcome', converted'⟩
  rw [ran, ran'] at agrees
  obtain ⟨rfl, _, logger, rfl, _, parallel⟩ := agrees
  refine agree_bind (agree_set
    ⟨⟨options, logger, base, base', rfl, sameOptions, bases, parallel, noOutput⟩, ignores⟩)
    fun _ beside => ?_
  cases outcome with
  | error failure =>
      exact agree_bind (beside.report_agrees _ _) fun _ beside => agree_pure beside none
  | ok project =>
      apply agree_get_bind
      rw [beside.same.hasErrors_eq]
      exact agree_pure beside _

theorem generate_agrees (beside : Beside replaced first second) (project : Nat) (out : String) :
    Agree (Beside replaced) (generate project out) (generate project out) first second := by
  refine agree_bind (beside.report_agrees _ _) fun {told _} _ beside => ?_
  obtain ⟨same, ignores⟩ := beside
  obtain ⟨options, logger, base, base', rfl, sameOptions, bases, parallel, noOutput⟩ := same
  have agrees : Agree (Site.Beside _ _)
      (Site.render (told.model.project project) (Path.ofString out))
      (Site.render (told.model.project project) (Path.ofString out))
      told.renderer (renderer { told with options, logger }) :=
    Site.render_agrees _ _ ⟨options, logger, rfl, sameOptions, parallel, ignores⟩
  apply agree_get_bind
  dsimp only
  rw [Agree] at agrees
  rcases ran : (Site.render (told.model.project project) (Path.ofString out)).run
    told.renderer with ⟨outcome, rendered⟩
  rcases ran' : (Site.render (told.model.project project) (Path.ofString out)).run
    (renderer { told with options, logger }) with ⟨outcome', rendered'⟩
  rw [ran, ran'] at agrees
  obtain ⟨rfl, _, logger, rfl, _, parallel, ignores⟩ := agrees
  refine agree_bind (agree_set
    ⟨⟨options, logger, base, base', rfl, sameOptions, bases, parallel, noOutput⟩, ignores⟩)
    fun _ beside => ?_
  cases outcome with
  | error failure => exact agree_throw beside failure
  | ok _ =>
      apply agree_get_bind
      rw [beside.same.hasErrors_eq]
      split
      · exact beside.report_agrees _ _
      · exact agree_pure beside ()

end Beside

/-! ## Ends -/

/-- Two stages end alike: with the same answer or failure, model, files and counters.  Where the
loggers are replaced, with a level the first has written those of all messages that reach the level,
and none if it is silent. -/
structure EndsAlike {Answer : Type} (replaced : Prop)
    (first second : Except Failure Answer × Application Observed) : Prop where
  outcome : second.1 = first.1
  model : second.2.model = first.2.model
  observed : second.2.observed = first.2.observed
  disk : second.2.disk = first.2.disk
  errors : second.2.logger.errors = first.2.logger.errors
  warnings : second.2.logger.warnings = first.2.logger.warnings
  silent : replaced → first.2.options.textOf .logger = "none" → first.2.written = []
  filtered : replaced → ∀ level : Level,
    first.2.options.textOf .logger = "console" →
      first.2.options.textOf .logLevel = level.word →
        second.2.options.textOf .logger = "console" →
          second.2.options.textOf .logLevel = Level.verbose.word →
            first.2.written =
              second.2.written.filter fun message => level.rank ≤ message.1.rank

theorem Beside.endsAlike {Answer : Type} {action action' : Running Observed Answer}
    (agrees : Agree (Beside replaced) action action' first second) :
    EndsAlike replaced (action.run first) (action'.run second) := by
  obtain ⟨sameOutcome, ⟨same, _⟩⟩ := agrees
  have sameErrors := same.errors_eq
  have sameWarnings := same.warnings_eq
  -- each logger has been told the same since it was fresh, and shows its part of one list
  obtain ⟨options, logger, base, base', after, _, bases, ⟨messages, told, told'⟩, noOutput⟩ := same
  have written (isReplaced : replaced) : (action.run first).2.written =
      Console.shown ((freshLogger (action.run first).2.options).logAll messages) := by
    rw [written, noOutput, told, (bases.fresh isReplaced).1, List.nil_append]
  have written' (isReplaced : replaced) : (action'.run second).2.written =
      Console.shown ((freshLogger options).logAll messages) := by
    rw [after, Application.written, noOutput, told', (bases.fresh isReplaced).2, List.nil_append]
  exact {
    outcome := sameOutcome.symm
    model := by rw [after]
    observed := by rw [after]
    disk := by rw [after]
    errors := sameErrors
    warnings := sameWarnings
    silent := fun isReplaced isNone =>
      (written isReplaced).trans (shown_of_none isNone messages)
    filtered := fun isReplaced level isConsole isLevel isConsole' isVerbose => by
      rw [after] at isConsole' isVerbose
      rw [written isReplaced, written' isReplaced, shown_of_console isConsole isLevel,
        shown_of_console isConsole' isVerbose, List.filter_filter]
      exact List.filter_congr fun message _ => by simp [Level.rank] }

/-- Where the loggers are not replaced, it is enough that nothing has been written. -/
theorem EndsAlike.always {Answer : Type}
    {first second : Except Failure Answer × Application Observed}
    (alike : EndsAlike replaced first second)
    (nothing : ¬ replaced → first.2.written = [] ∧ second.2.written = []) :
    EndsAlike True first second := by
  by_cases isReplaced : replaced
  · exact { alike with
      silent _ := alike.silent isReplaced
      filtered _ := alike.filtered isReplaced }
  · obtain ⟨first, second⟩ := nothing isReplaced
    refine { alike with silent := fun _ _ => first, filtered := fun _ _ _ _ _ _ => ?_ }
    rw [first, second, List.filter_nil]

/-! ## Plugins -/

/-- Nothing that a run can load, and no listener that it has, asks which messages are written. -/
structure Ignoring (application : Application Observed) : Prop where
  registered : ∀ entry ∈ application.registry.entries, LoadsIgnoring entry.2.load
  modules : ∀ name load, (name, .loader load) ∈ application.modules → LoadsIgnoring load
  hooks : Site.IgnoresVerbosity application.listeners.hooks

namespace Ignoring

variable {application : Application Observed}

theorem loaderOf (ignoring : Ignoring application) {name : String} {load : Loading Observed Unit}
    (loads : loaderOf application name = .ok load) : LoadsIgnoring load := by
  rw [Application.loaderOf] at loads
  split at loads
  · next plugin found =>
      cases loads
      obtain ⟨before, after, entries, _⟩ := List.lookup_eq_some_iff.mp found
      exact ignoring.registered (name, plugin) (by rw [entries]; simp)
  · split at loads
    · cases loads
    split at loads
    · cases loads
    split at loads
    · next load found =>
        cases loads
        obtain ⟨before, after, entries, _⟩ := List.lookup_eq_some_iff.mp found
        exact ignoring.modules name load (by rw [entries]; simp)
    · cases loads
    · cases loads

theorem equipped (ignoring : Ignoring application) (name : String) :
    Ignoring (application.equipped name) := by
  rw [Application.equipped]
  cases loads : Application.loaderOf application name with
  | error fault => exact ⟨ignoring.registered, ignoring.modules, ignoring.hooks⟩
  | ok load =>
      have after := ignoring.loaderOf loads application.listeners ignoring.hooks
      dsimp only
      rcases ran : load.run application.listeners with ⟨_ | _, listeners⟩
      all_goals
        rw [ran] at after
        exact ⟨ignoring.registered, ignoring.modules, after⟩

theorem equippedAll (ignoring : Ignoring application) (names : List String) :
    Ignoring (application.equippedAll names) := by
  induction names generalizing application with
  | nil => exact ignoring
  | cons name names inductionHypothesis =>
      rw [Application.equippedAll, List.foldl_cons]
      split
      · exact inductionHypothesis ignoring
      · exact inductionHypothesis (ignoring.equipped name)

theorem loadPlugins (ignoring : Ignoring application) :
    Ignoring (loadPlugins.run application).2 := by
  rw [loadPlugins_run]
  rcases registers : application.registry.registerAll Plugin.builtIn with ⟨registry, fault?⟩
  have registered : Ignoring { application with registry } := by
    refine ⟨fun entry member => ?_, ignoring.modules, ignoring.hooks⟩
    have isKnown := Registry.mem_registerAll (registers ▸ member :
      entry ∈ (application.registry.registerAll Plugin.builtIn).1.entries)
    rcases isKnown with before | isBuiltIn
    · exact ignoring.registered entry before
    · exact Plugin.builtIn_ignoring entry.2 isBuiltIn
  cases fault? with
  | none => exact registered.equippedAll _
  | some fault => exact registered

end Ignoring

/-- In a run that can load the plugins of its registry and its modules, no listener asks which
messages are written if none of these adds one that does. -/
theorem bootstrap_ignoring
    (environment : Environment) (disk : Disk) (registry : Registry Observed)
    (modules : List (String × PluginModule Observed)) (observed : Observed)
    (registered : ∀ entry ∈ registry.entries, LoadsIgnoring entry.2.load)
    (modular : ∀ name load, (name, .loader load) ∈ modules → LoadsIgnoring load)
    (given : List (Value × Value)) (config : Option String) :
    Site.IgnoresVerbosity ((bootstrap given config).run
      (.initial environment disk registry modules observed)).2.listeners.hooks := by
  have noListeners : Site.IgnoresVerbosity (Listeners.empty : Listeners Observed).hooks :=
    fun _ _ member => nomatch member
  cases settles : (Application.initial environment disk registry modules observed).settledOf given
      config with
  | error failure =>
      obtain ⟨options, boots⟩ := bootstrap_of_settledOf_error settles
      rw [boots]
      exact noListeners
  | ok settled =>
      rw [bootstrap_of_settledOf settles]
      exact (Ignoring.loadPlugins ⟨registered, modular, noListeners⟩).hooks

end ApiDocs.Application

namespace ApiDocs.CommandLine

open ApiDocs.Computation ApiDocs.Application

variable {Observed : Type} {replaced : Prop}

/-! ## Commands -/

/-- The summary of a run tells its modules and its warnings. -/
theorem summary_eq {first second : Application Observed}
    (same : SameButVerbosity replaced first second) (project : Nat) (out : String) :
    summary (second.model.modules project).length out second.logger =
      summary (first.model.modules project).length out first.logger := by
  have sameModel : second.model = first.model := by rw [same.rest_eq]
  have sameHasWarnings : second.logger.hasWarnings = first.logger.hasWarnings := by
    rw [Logger.hasWarnings, same.warnings_eq, Logger.hasWarnings]
  rw [summary, summary, sameModel, sameHasWarnings, same.warnings_eq]

theorem conclude_agrees {first second : Application Observed}
    (beside : Beside replaced first second) (project : Nat) :
    Agree (Beside replaced) (conclude project) (conclude project) first second := by
  have sameOut : second.options.textOf .out = first.options.textOf .out :=
    beside.same.options.textOf rfl
  apply agree_get_bind
  rw [sameOut]
  refine agree_bind (beside.generate_agrees _ _) fun _ beside => ?_
  refine agree_bind beside.hasErrors_agrees fun errors beside => ?_
  cases errors with
  | true => exact agree_pure beside _
  | false =>
      apply agree_get_bind
      dsimp only
      rw [summary_eq beside.same]
      exact agree_pure beside _

/-- Runs whose preparations go the same way do so to the end. -/
theorem steps_agree {first second : Application Observed} {parsed parsed' : Arguments}
    (boots : Agree (Beside replaced) (bootstrap parsed.given parsed.config)
      (bootstrap parsed'.given parsed'.config) first second) :
    Agree (Beside replaced) (steps parsed) (steps parsed') first second := by
  refine agree_bind boots fun _ beside => ?_
  refine agree_bind beside.hasErrors_agrees fun errors beside => ?_
  cases errors with
  | true => exact agree_pure beside _
  | false =>
      refine agree_bind beside.convert_agrees fun project? beside => ?_
      cases project? with
      | none => exact agree_pure beside _
      | some project => exact conclude_agrees beside project

/-- Nothing follows on a preparation that fails. -/
theorem steps_of_failure {start ended : Application Observed} {parsed : Arguments}
    {failure : Failure}
    (fails : (bootstrap parsed.given parsed.config).run start = (.error failure, ended)) :
    (steps parsed).run start = (.error failure, ended) :=
  run_bind_error fails

/-- Commands come to the same if their runs end alike. -/
theorem execute_of_endsAlike {start : Application Observed} {arguments arguments' : List String}
    {parsed parsed' : Arguments}
    (asked : request start.disk arguments = .ok (.run parsed))
    (asked' : request start.disk arguments' = .ok (.run parsed'))
    (alike : EndsAlike True ((steps parsed).run start) ((steps parsed').run start)) :
    let outcome := execute start arguments
    let outcome' := execute start arguments'
    (outcome'.exitCode = outcome.exitCode ∧ outcome'.output = outcome.output ∧
      outcome'.failure = outcome.failure ∧ outcome'.disk = outcome.disk) ∧
      ∃ ending,
        outcome.errors =
            Console.outputOf false ((steps parsed).run start).2.written ++ ending ∧
          outcome'.errors =
            Console.outputOf false ((steps parsed').run start).2.written ++ ending := by
  simp only [execute, asked, asked']
  have sameOutcome := alike.outcome
  have sameDisk := alike.disk
  rcases ran : (steps parsed).run start with ⟨answer, final⟩
  rcases ran' : (steps parsed').run start with ⟨answer', final'⟩
  rw [ran, ran'] at sameOutcome sameDisk
  obtain rfl : answer' = answer := sameOutcome
  rcases answer' with failure | (summary | message)
  · exact ⟨⟨rfl, rfl, rfl, sameDisk⟩, "", by simp [console_eq]⟩
  · exact ⟨⟨rfl, rfl, rfl, sameDisk⟩, "", by simp [console_eq]⟩
  · exact ⟨⟨rfl, rfl, rfl, sameDisk⟩, s!"Error: {message}\n", by simp [console_eq]⟩

/-- Runs that differ only in the logger and its level, where no listener asks for these, go the same
way: every stage of them ends alike, and so does the command.  Each has written those messages that
reach its level, in the order of the run at the lowest level, and none if it is silent.  Only where
something is exhausted with an entry the loggers are not replaced: then the command has written
nothing, and a later stage goes by the level that it began with. -/
theorem verbosity_only_filters_messages
    (environment : Environment) (disk : Disk) (registry : Registry Observed)
    (modules : List (String × PluginModule Observed)) (observed : Observed)
    {given given' : List (Value × Value)} {config config' : Option String}
    (same : essentials environment disk given config = essentials environment disk given' config')
    (ignores : Site.IgnoresVerbosity ((bootstrap given config).run
      (.initial environment disk registry modules observed)).2.listeners.hooks) :
    let start := Application.initial environment disk registry modules observed
    let booted := (bootstrap given config).run start
    let booted' := (bootstrap given' config').run start
    let converted := convert.run booted.2
    let converted' := convert.run booted'.2
    let replaced := Replaces start given config
    (EndsAlike True booted booted' ∧ EndsAlike replaced converted converted' ∧
      ∀ project out,
        EndsAlike replaced ((generate project out).run converted.2)
          ((generate project out).run converted'.2)) ∧
      ∀ (arguments arguments' : List String) (parsed parsed' : Arguments),
        request disk arguments = .ok (.run parsed) →
          request disk arguments' = .ok (.run parsed') →
            parsed.given = given ∧ parsed.config = config →
              parsed'.given = given' ∧ parsed'.config = config' →
                let outcome := execute start arguments
                let outcome' := execute start arguments'
                EndsAlike True ((steps parsed).run start) ((steps parsed').run start) ∧
                  (outcome'.exitCode = outcome.exitCode ∧ outcome'.output = outcome.output ∧
                    outcome'.failure = outcome.failure ∧ outcome'.disk = outcome.disk) ∧
                    ∃ ending,
                      outcome.errors = Console.outputOf false
                          ((steps parsed).run start).2.written ++ ending ∧
                        outcome'.errors = Console.outputOf false
                          ((steps parsed').run start).2.written ++ ending := by
  intro start booted booted' converted converted' replaced
  obtain ⟨sameOutcome, sameBooted⟩ :=
    bootstrap_sameButVerbosity environment disk registry modules observed same
  have boots : Agree (Beside replaced) (bootstrap given config) (bootstrap given' config') start
      start :=
    ⟨sameOutcome, sameBooted, ignores⟩
  have converts : Agree (Beside replaced) convert convert booted.2 booted'.2 :=
    boots.2.convert_agrees
  have nothing (notReplaced : ¬ replaced) : ∃ failure, booted.1 = .error failure ∧
      booted'.1 = .error failure ∧ booted.2.written = [] ∧ booted'.2.written = [] := by
    obtain ⟨exhaustion, fails⟩ := not_forall_not.mp notReplaced
    exact ⟨_, fails, sameOutcome ▸ fails, written_of_exhausted fails,
      written_of_exhausted (sameOutcome ▸ fails)⟩
  refine ⟨⟨(Beside.endsAlike boots).always fun notReplaced => ?_, Beside.endsAlike converts,
    fun project out => Beside.endsAlike (converts.2.generate_agrees project out)⟩, ?_⟩
  · obtain ⟨_, _, _, written⟩ := nothing notReplaced
    exact written
  rintro arguments arguments' parsed parsed' asked asked' ⟨rfl, rfl⟩ ⟨rfl, rfl⟩ outcome outcome'
  have alike : EndsAlike True ((steps parsed).run start) ((steps parsed').run start) := by
    refine (Beside.endsAlike (steps_agree boots)).always fun notReplaced => ?_
    obtain ⟨failure, fails, fails', written, written'⟩ := nothing notReplaced
    rw [steps_of_failure (Prod.ext fails rfl), steps_of_failure (Prod.ext fails' rfl)]
    exact ⟨written, written'⟩
  exact ⟨alike, execute_of_endsAlike asked asked' alike⟩

/-- The arguments of a run that writes all messages. -/
def verboseArguments : Arguments := { sourceArguments with verbose := true }

/-- All messages are written, or just those of the usual level; the files are the same. -/
theorem verbosity_only_filters_messages_source :
    let outcome := execute sourceStart ["src", "-o", "site"]
    let outcome' := execute sourceStart ["src", "-o", "site", "--verbose"]
    let final := ((steps sourceArguments).run sourceStart).2
    let final' := ((steps verboseArguments).run sourceStart).2
    (outcome.exitCode = 0 ∧ outcome'.exitCode = 0 ∧ outcome'.disk = outcome.disk) ∧
      final.written = final'.written.filter (fun message => Level.info.rank ≤ message.1.rank) ∧
        final.written.length = 1 ∧ final'.written.length = 6 := by
  intro outcome outcome' final final'
  have documents : request sourceDisk ["src", "-o", "site"] = .ok (.run sourceArguments) :=
    request_eq_run (by decide +kernel)
  have tells : request sourceDisk ["src", "-o", "site", "--verbose"] =
      .ok (.run verboseArguments) :=
    request_eq_run (by decide +kernel)
  have unconfigured : configPath? sourceDisk none = none := by decide +kernel
  have same : essentials .bare sourceDisk sourceArguments.given none =
      essentials .bare sourceDisk verboseArguments.given none := by
    refine essentials_eq_of_given (fun layer unloaded layered => ?_) ?_ ?_ ?_
    · rw [unconfigured] at layered
      cases layered
      exact fun _ member => nomatch member
    · unfold Settles
      decide +kernel
    · unfold Settles
      decide +kernel
    · rfl
  have ignores := bootstrap_ignoring .bare sourceDisk .empty [] ()
    (fun _ member => nomatch member) (fun _ _ member => nomatch member) sourceArguments.given none
  obtain ⟨alike, ⟨sameCode, _, _, sameDisk⟩, _⟩ :=
    (verbosity_only_filters_messages .bare sourceDisk .empty [] () same ignores).2
      _ _ _ _ documents tells ⟨rfl, rfl⟩ ⟨rfl, rfl⟩
  have succeeds : outcome.exitCode = 0 := by decide +kernel
  have writes : final.written.length = 1 ∧ final'.written.length = 6 := by decide +kernel
  refine ⟨⟨succeeds, sameCode.trans succeeds, sameDisk⟩, ?_, writes⟩
  exact alike.filtered trivial .info (by decide +kernel) (by decide +kernel) (by decide +kernel)
    (by decide +kernel)

end ApiDocs.CommandLine
