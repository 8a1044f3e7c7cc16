import ApiDocs.Proofs.Run.Stages
import ApiDocs.Proofs.Settings.Layers

/-!
# Preparing a run

A preparation settles every option by the given entry for it or, where none is given, by the entry
of the configuration file.  The problems with both are told to the logger that these settings ask
for, before any plugin is loaded.
-/

namespace ApiDocs.Application

open ApiDocs.Computation

variable {Observed : Type}

/-- What the configuration file contributes to the settings: its values, or the problem with it. -/
def layerOf (environment : Environment) (disk : Disk) :
    Option Path → Except Failure (List (Value × Value) × List String)
  | none => .ok ([], [])
  | some path =>
    match ConfigFile.load environment disk path with
    | .ok values => .ok (values, [])
    | .error (.config fault) => .ok ([], [fault.message])
    | .error failure => .error failure

theorem layerOf_isMapping {environment : Environment} {disk : Disk} {path? : Option Path}
    {layer : List (Value × Value)} {unloaded : List String}
    (layered : layerOf environment disk path? = .ok (layer, unloaded)) : IsMapping layer := by
  cases path? with
  | none =>
      cases layered
      exact .nil
  | some path =>
      rw [layerOf] at layered
      rcases ConfigFile.load_outcome environment disk path with
        ⟨values, loads, isMapping⟩ | ⟨fault, fails, _⟩ | ⟨failure, fails, escapes⟩
      · rw [loads] at layered
        cases layered
        exact isMapping
      · rw [fails] at layered
        cases layered
        exact .nil
      · rw [fails] at layered
        cases failure with
        | config fault => exact absurd rfl (escapes.ne_config fault)
        | _ => cases layered

section Runs

variable {application : Application Observed}

theorem configured_run (application : Application Observed) (path? : Option Path) :
    (configured path?).run application =
      (layerOf application.environment application.disk path?, application) := by
  cases path? with
  | none => rfl
  | some path =>
      have run : (configured (some path)).run application =
          ((match ConfigFile.load application.environment application.disk path with
            | .ok values => return (values, [])
            | .error (.config fault) => return ([], [fault.message])
            | .error failure => throw failure :
            Running Observed (List (Value × Value) × List String)).run application) := rfl
      rw [run, layerOf]
      cases ConfigFile.load application.environment application.disk path with
      | ok values => rfl
      | error failure => cases failure <;> rfl

theorem replaceLogger_run (application : Application Observed) :
    replaceLogger.run application =
      (.ok (), { application with
        output := application.output ++ Console.shown application.logger
        logger := freshLogger application.options }) :=
  rfl

/-- A run after a message. -/
def told (application : Application Observed) (level : Level) (message : String) :
    Application Observed :=
  { application with logger := application.logger.log level message }

/-- Problems are reported one after the other. -/
theorem reportAll_run (problems : List String) :
    (forIn problems PUnit.unit fun problem _ => do
      report .error problem
      pure (ForInStep.yield PUnit.unit) : Running Observed PUnit).run application =
      (.ok PUnit.unit, { application with
        logger := application.logger.logAll (problems.map fun problem => (.error, problem)) }) := by
  have tells (problem : String) (state : Application Observed) :
      (do report .error problem; pure (ForInStep.yield PUnit.unit) :
        Running Observed (ForInStep PUnit)).run state =
        (.ok (.yield PUnit.unit), state.told .error problem) :=
    rfl
  rw [run_forIn_of_run tells]
  congr 1
  induction problems generalizing application with
  | nil => rfl
  | cons problem problems inductionHypothesis => exact inductionHypothesis

/-- A run when its settings are made and their problems are reported. -/
def prepared (application : Application Observed) (options : Options) (problems : List String) :
    Application Observed :=
  { application with
    options
    output := application.output ++ Console.shown application.logger
    logger := (freshLogger options).logAll (problems.map fun problem => (.error, problem)) }

theorem freshLogger_errors (options : Options) : (freshLogger options).errors = 0 := by
  rw [freshLogger, Logger.ofName]
  split <;> rfl

/-- Every problem is one error. -/
theorem errors_prepared (application : Application Observed) (options : Options)
    (problems : List String) :
    (prepared application options problems).logger.errors = problems.length := by
  rw [prepared, Logger.errors_logAll, freshLogger_errors, Nat.zero_add, List.countP_map]
  exact List.countP_eq_length.mpr fun _ _ => rfl

theorem makeSettings_run (application : Application Observed) (entries : List (Value × Value)) :
    let settled :=
      applySettings application.room application.options (tellable application.room entries)
    (makeSettings entries).run application =
      (match entries.findSome? (entryExhausts? application.room) with
        | none => .ok settled.2
        | some exhaustion => .error (.exhausted exhaustion),
        { application with options := settled.1 }) := by
  intro settled
  have run : (makeSettings entries).run application =
      ((match entries.findSome? (entryExhausts? application.room) with
        | none => return settled.2
        | some exhaustion => throw (.exhausted exhaustion) :
        Running Observed (List String)).run { application with options := settled.1 }) := rfl
  rw [run]
  cases entries.findSome? (entryExhausts? application.room) <;> rfl

section Layers

variable (given : List (Value × Value)) {layer : List (Value × Value)} {config : Option String}
  {unloaded : List String}
  (layered : layerOf application.environment application.disk
    (configPath? application.disk config) = .ok (layer, unloaded))

include layered

/-- A preparation makes the settings first. -/
theorem settle_of_layer :
    (settle given config).run application =
      (makeSettings (mergeValues layer given) >>= fun refused =>
        pure (unloaded ++ refused)).run application := by
  have configures := configured_run application (configPath? application.disk config)
  rw [layered] at configures
  rw [settle, run_bind_ok (run_get application), run_bind_ok configures]

/-- A preparation goes on to the plugins where nothing is exhausted with an entry. -/
theorem bootstrap_of_layer
    (told : (mergeValues layer given).findSome? (entryExhausts? application.room) = none) :
    let settled := applySettings application.room application.options (mergeValues layer given)
    (bootstrap given config).run application =
      loadPlugins.run (prepared application settled.1 (unloaded ++ settled.2)) := by
  intro settled
  have made := makeSettings_run application (mergeValues layer given)
  simp only [told, tellable_eq_self told] at made
  have settles : (settle given config).run application =
      (.ok (unloaded ++ settled.2), { application with options := settled.1 }) := by
    rw [settle_of_layer given layered, run_bind_ok made]
    rfl
  rw [bootstrap_eq, run_bind_ok settles, run_bind_ok (replaceLogger_run _),
    run_bind_ok (reportAll_run _)]
  rfl

/-- Where something is exhausted with an entry, a preparation ends there.  Only the entries before
it are set. -/
theorem bootstrap_of_exhausted {exhaustion : Exhaustion}
    (exhausts : (mergeValues layer given).findSome? (entryExhausts? application.room) =
      some exhaustion) :
    (bootstrap given config).run application =
      (.error (.exhausted exhaustion),
        { application with
          options :=
            (applySettings application.room application.options
              (tellable application.room (mergeValues layer given))).1 }) := by
  have made := makeSettings_run application (mergeValues layer given)
  simp only [exhausts] at made
  have settles := settle_of_layer given layered
  rw [run_bind_error made] at settles
  rw [bootstrap_eq, run_bind_error settles]

end Layers

theorem bootstrap_of_failure (given : List (Value × Value)) {config : Option String}
    {failure : Failure}
    (fails : layerOf application.environment application.disk
      (configPath? application.disk config) = .error failure) :
    (bootstrap given config).run application = (.error failure, application) := by
  have configures := configured_run application
    (configPath? application.disk config)
  rw [fails] at configures
  have settles : (settle given config).run application = (.error failure, application) :=
    (run_bind_ok (run_get application)).trans (run_bind_error configures)
  rw [bootstrap_eq, run_bind_error settles]

/-- The settings that a preparation makes and the problems with them, or the failure that it ends
with before it comes to the plugins. -/
def settledOf (application : Application Observed) (given : List (Value × Value))
    (config : Option String) : Except Failure (Options × List String) :=
  match layerOf application.environment application.disk (configPath? application.disk config) with
  | .error failure => .error failure
  | .ok (layer, unloaded) =>
    match (mergeValues layer given).findSome? (entryExhausts? application.room) with
    | some exhaustion => .error (.exhausted exhaustion)
    | none =>
      let settled := applySettings application.room application.options (mergeValues layer given)
      .ok (settled.1, unloaded ++ settled.2)

theorem settledOf_of_layer (given : List (Value × Value)) {layer : List (Value × Value)}
    {config : Option String} {unloaded : List String}
    (layered : layerOf application.environment application.disk
      (configPath? application.disk config) = .ok (layer, unloaded))
    (told : (mergeValues layer given).findSome? (entryExhausts? application.room) = none) :
    ∃ settled, application.settledOf given config = .ok settled := by
  simp only [settledOf, layered, told]
  exact ⟨_, rfl⟩

theorem settledOf_eq_ok {given : List (Value × Value)} {config : Option String}
    {settled : Options × List String}
    (settles : application.settledOf given config = .ok settled) :
    ∃ layer unloaded, layerOf application.environment application.disk
        (configPath? application.disk config) = .ok (layer, unloaded) ∧
      (mergeValues layer given).findSome? (entryExhausts? application.room) = none := by
  rw [settledOf] at settles
  split at settles
  · cases settles
  next layer unloaded layered =>
    split at settles
    · cases settles
    next told => exact ⟨layer, unloaded, layered, told⟩

theorem bootstrap_of_settledOf {given : List (Value × Value)} {config : Option String}
    {options : Options} {problems : List String}
    (settles : application.settledOf given config = .ok (options, problems)) :
    (bootstrap given config).run application =
      loadPlugins.run (prepared application options problems) := by
  rw [settledOf] at settles
  split at settles
  · cases settles
  next layer unloaded layered =>
    split at settles
    · cases settles
    next told =>
      cases settles
      exact bootstrap_of_layer given layered told

theorem bootstrap_of_settledOf_error {given : List (Value × Value)} {config : Option String}
    {failure : Failure} (fails : application.settledOf given config = .error failure) :
    ∃ options, (bootstrap given config).run application =
      (.error failure, { application with options }) := by
  rw [settledOf] at fails
  split at fails
  next layered =>
    cases fails
    exact ⟨application.options, bootstrap_of_failure given layered⟩
  next layer unloaded layered =>
    split at fails
    next exhausts =>
      cases fails
      exact ⟨_, bootstrap_of_exhausted given layered exhausts⟩
    · cases fails

/-! ## Plugins -/

/-- A run after a plugin has been loaded, or has been reported. -/
def equipped (application : Application Observed) (name : String) : Application Observed :=
  let failed (application : Application Observed) (fault : PluginFault) : Application Observed :=
    application.told .error s!"The plugin {name} could not be loaded: {fault.message}"
  match loaderOf application name with
  | .error fault => failed application fault
  | .ok load =>
    match load.run application.listeners with
    | (.error failure, listeners) => failed { application with listeners } (.failed failure)
    | (.ok (), listeners) =>
      { application with listeners, loaded := application.loaded ++ [name] }.told .verbose
        s!"Loaded plugin {name}"

theorem loadPlugin_run (application : Application Observed) (name : String) :
    (loadPlugin name).run application = (.ok (), application.equipped name) := by
  rw [equipped, loadPlugin, run_bind_ok (run_get application)]
  cases loaderOf application name with
  | error fault => rfl
  | ok load =>
      dsimp only
      rcases load.run application.listeners with ⟨_ | _, listeners⟩ <;> rfl

/-- A run after the plugins of a list have been loaded, each that is not yet. -/
def equippedAll (application : Application Observed) (names : List String) :
    Application Observed :=
  names.foldl (fun application name =>
    if application.loaded.contains name then application else application.equipped name) application

theorem loadPlugins_run (application : Application Observed) :
    loadPlugins.run application =
      match application.registry.registerAll Plugin.builtIn with
      | (registry, some fault) => (.error (.registry fault), { application with registry })
      | (registry, none) =>
        (.ok (), { application with registry }.equippedAll
          ((Plugin.builtIn : List (Plugin Observed)).map Plugin.name ++
            application.options.textsOf .plugins)) := by
  rw [loadPlugins, run_bind_ok (run_get application)]
  rcases application.registry.registerAll Plugin.builtIn with ⟨registry, _ | fault⟩
  · dsimp only
    rw [run_set_bind, run_bind_ok (run_forIn_of_run (fun name state => ?_) _)]
    · rfl
    · rw [run_bind_ok (run_get state)]
      cases state.loaded.contains name with
      | true => rfl
      | false => exact run_bind_ok (loadPlugin_run state name)
  · rfl

end Runs

/-- Loading plugins fails only where the built-in ones cannot be registered. -/
theorem loadPlugins_fails {application : Application Observed} {failure : Failure}
    (fails : (loadPlugins.run application).1 = .error failure) :
    ∃ fault, failure = .registry fault := by
  rw [loadPlugins_run] at fails
  split at fails
  · exact ⟨_, (Except.error.inj fails).symm⟩
  · cases fails

/-! ## Settings -/

/-- Where something is exhausted with an entry, a preparation ends there.  Else it settles every
option by itself, from the given entry for it or else from that of the configuration file.  Before
any plugin is loaded there is one error for each entry that is refused, and one if the configuration
file cannot be used.  The order of the entries does not matter. -/
theorem bootstrap_settles_options
    (environment : Environment) (disk : Disk) (registry : Registry Observed)
    (modules : List (String × PluginModule Observed)) (observed : Observed)
    {given layer : List (Value × Value)} {config : Option String} {unloaded : List String}
    (isMapping : IsMapping given)
    (layered : layerOf environment disk (configPath? disk config) = .ok (layer, unloaded)) :
    let start := Application.initial environment disk registry modules observed
    let booted := (bootstrap given config).run start
    let merged := mergeValues layer given
    let room := environment.platform.showingRoom
    let told := prepared start booted.2.options (unloaded ++ merged.filterMap (refusal? room))
    (∀ exhaustion, merged.findSome? (entryExhausts? room) = some exhaustion →
      booted = (.error (.exhausted exhaustion),
        { start with options := (applySettings room .initial (tellable room merged)).1 })) ∧
      (merged.findSome? (entryExhausts? room) = none →
        (∀ option : OptionName,
          booted.2.options.settings option =
              option.settled room (valueOf? given option.word) (valueOf? layer option.word) ∧
            (booted.2.options.isSet option.word ↔ (option.accepted? room
              ((valueOf? given option.word).or (valueOf? layer option.word))).isSome)) ∧
          (booted = loadPlugins.run told ∧ told.output = [] ∧
            told.logger.errors =
              unloaded.length + merged.countP (fun entry => (refusal? room entry).isSome) ∧
            ∀ entry ∈ merged, (refusal? room entry).isSome ↔
              ∀ option : OptionName, entry.1 = .text option.word →
                ∃ fault, option.accept room entry.2 = .error fault) ∧
          ∀ (environment' : Environment) (disk' : Disk) (config' : Option String)
            (given' layer' : List (Value × Value)) (unloaded' : List String),
            environment'.platform = environment.platform →
            layerOf environment' disk' (configPath? disk' config') = .ok (layer', unloaded') →
              given.Perm given' → layer.Perm layer' →
                let start' := Application.initial environment' disk' registry modules observed
                let booted' := (bootstrap given' config').run start'
                booted'.2.options.settings = booted.2.options.settings ∧
                  (∀ name, booted'.2.options.isSet name = booted.2.options.isSet name) ∧
                    (merged.filterMap (refusal? room)).Perm
                      ((mergeValues layer' given').filterMap (refusal? room))) := by
  intro start booted merged room told
  refine ⟨fun exhaustion exhausts => bootstrap_of_exhausted given layered exhausts,
    fun toldAll => ?_⟩
  have layerMapping := layerOf_isMapping layered
  -- plugins do not change the settings
  have settled (start : Application Observed) {given layer : List (Value × Value)}
      {config : Option String} {unloaded : List String}
      (initially : start.options = .initial) (sameRoom : start.room = room)
      (layered : layerOf start.environment start.disk (configPath? start.disk config) =
        .ok (layer, unloaded))
      (told : (mergeValues layer given).findSome? (entryExhausts? room) = none) :
      ((bootstrap given config).run start).2.options =
        (applySettings room .initial (mergeValues layer given)).1 := by
    rw [← sameRoom] at told ⊢
    rw [bootstrap_of_layer given layered told, initially]
    exact Equips.settings loadPlugins_equips
  have sameOptions : booted.2.options = (applySettings room .initial merged).1 :=
    settled start rfl rfl layered toldAll
  refine ⟨fun option => ?_, ⟨?_, rfl, ?_, fun entry _ => refusal?_isSome_iff entry⟩, ?_⟩
  · rw [sameOptions]
    exact applySettings_layers room isMapping layerMapping option
  · have boots : booted = loadPlugins.run (prepared start _ _) :=
      bootstrap_of_layer given layered toldAll
    simp only [told]
    rw [sameOptions, ← applySettings_problems room .initial merged]
    exact boots
  · rw [errors_prepared, List.length_append, List.length_filterMap_eq_countP]
  · intro environment' disk' config' given' layer' unloaded' samePlatform layered' permuted
      layerPermuted start' booted'
    have toldAll' := told_perm
      (mergeValues_perm layerMapping isMapping layerPermuted permuted) toldAll
    have sameOptions' : booted'.2.options = (applySettings room .initial _).1 :=
      settled start' rfl (congrArg Platform.showingRoom samePlatform) layered' toldAll'
    rw [sameOptions, sameOptions', ← applySettings_problems room .initial merged,
      ← applySettings_problems room .initial (mergeValues layer' given')]
    exact applySettings_perm room isMapping layerMapping permuted layerPermuted

/-- A directory with a configuration file. -/
def settingsDisk : Disk :=
  { tree := .directory [("quire.yaml",
      .file (Text.encode "name: Demo\nfooter: [a]\nga_site: example.org\n".toList))]
    workingDirectory := [] }

/-- One entry hides an accepted one below it, one is unknown, and one is accepted. -/
def settingsGiven : List (Value × Value) :=
  [(.text "ga_site", .integer 3), (.text "theme", .text "dark"), (.text "log_level", .text "warn")]

/-- The values of the configuration file. -/
def settingsLayer : List (Value × Value) :=
  ((layerOf .bare settingsDisk (configPath? settingsDisk none)).toOption.getD ([], [])).1

theorem eq_ok_of_snd {Answer Other : Type} {outcome : Except Failure (Answer × Other)}
    {second : Other} (seconds : outcome.toOption.map Prod.snd = some second)
    (default : Answer × Other) :
    outcome = .ok ((outcome.toOption.getD default).1, second) := by
  cases outcome with
  | error failure => cases seconds
  | ok pair =>
      cases seconds
      rfl

theorem layerOf_settingsDisk :
    layerOf .bare settingsDisk (configPath? settingsDisk none) = .ok (settingsLayer, []) :=
  eq_ok_of_snd (by decide +kernel) ([], [])

/-- Three entries are refused: one of the configuration file, and two that are given. -/
theorem bootstrap_settles_options_demo :
    ∃ options problems,
      (bootstrap settingsGiven none).run (.initial .bare settingsDisk .empty [] ()) =
          loadPlugins.run
            (prepared (.initial .bare settingsDisk .empty [] () : Application Unit) options
              problems) ∧
        problems.length = 3 ∧
          options.settings .name = .text "Demo" ∧ options.settings .gaSite = .text "auto" ∧
            options.settings .footer = .text "" ∧ options.settings .logLevel = .text "warn" ∧
              ¬ options.isSet OptionName.gaSite.word := by
  have isMapping : IsMapping settingsGiven := by
    simp [IsMapping, settingsGiven, Yaml.isSameKey]
  obtain ⟨each, ⟨boots, _, errors, _⟩, _⟩ :=
    (bootstrap_settles_options .bare settingsDisk .empty [] () isMapping
      layerOf_settingsDisk).2 (by decide +kernel)
  rw [errors_prepared, List.length_nil, Nat.zero_add] at errors
  have entries :
      (mergeValues settingsLayer settingsGiven).countP (fun entry =>
          (refusal? Environment.bare.platform.showingRoom entry).isSome) = 3 ∧
        [OptionName.name, .gaSite, .footer, .logLevel].map (fun option =>
            option.settled Environment.bare.platform.showingRoom
              (valueOf? settingsGiven option.word) (valueOf? settingsLayer option.word)) =
          [.text "Demo", .text "auto", .text "", .text "warn"] ∧
        (OptionName.gaSite.accepted? Environment.bare.platform.showingRoom
          ((valueOf? settingsGiven OptionName.gaSite.word).or
            (valueOf? settingsLayer OptionName.gaSite.word))).isSome = false := by
    decide +kernel
  obtain ⟨three, settings, refused⟩ := entries
  simp only [List.map_cons, List.map_nil, List.cons.injEq, and_true] at settings
  obtain ⟨name, gaSite, footer, logLevel⟩ := settings
  -- the run itself is not evaluated, only the entries are
  generalize (bootstrap settingsGiven none).run (.initial .bare settingsDisk .empty [] ()) = booted
    at each boots ⊢
  refine ⟨_, _, boots, errors.trans three, (each .name).1.trans name,
    (each .gaSite).1.trans gaSite, (each .footer).1.trans footer,
    (each .logLevel).1.trans logLevel, fun isSet => ?_⟩
  rw [(each .gaSite).2.mp isSet] at refused
  cases refused

/-- An integer of one digit too many is refused, but this cannot be told. -/
theorem not_bootstrap_reports_every_entry :
    ¬ ∀ (environment : Environment) (disk : Disk) (given layer : List (Value × Value))
      (config : Option String) (unloaded : List String), IsMapping given →
      layerOf environment disk (configPath? disk config) = .ok (layer, unloaded) →
      let start : Application Unit := .initial environment disk .empty [] ()
      ∃ options problems,
        (bootstrap given config).run start = loadPlugins.run (prepared start options problems) ∧
          problems.length = unloaded.length +
            (mergeValues layer given).countP fun entry =>
              (refusal? environment.platform.showingRoom entry).isSome := by
  intro always
  let disk : Disk := { tree := .directory [], workingDirectory := [] }
  let given : List (Value × Value) := [(.text "name", .integer Value.firstUnwritten)]
  let start : Application Unit := .initial .bare disk .empty [] ()
  have layered : layerOf .bare disk (configPath? disk none) = .ok ([], []) := rfl
  obtain ⟨options, problems, boots, _⟩ :=
    always .bare disk given [] none [] (List.pairwise_singleton _ _) layered
  have exhausts : (mergeValues [] given).findSome? (entryExhausts? start.room) = some .digits := by
    decide +kernel
  have ended : (bootstrap given none).run start = _ := bootstrap_of_exhausted given layered exhausts
  rw [ended] at boots
  obtain ⟨fault, isRegistry⟩ := loadPlugins_fails (congrArg Prod.fst boots.symm)
  cases isRegistry

/-! ## Configuration files -/

/-- What a configuration file can do to a preparation.  A fault of the file by its own account is
reported as an error, and the preparation goes on; a failure that escapes this account ends it
before anything is reported, and so does an entry that something is exhausted with.  Nothing else
in the file ends a preparation. -/
theorem bootstrap_of_config
    (application : Application Observed) (given : List (Value × Value)) {config : Option String}
    {path : Path} (configures : configPath? application.disk config = some path) :
    let loaded := ConfigFile.load application.environment application.disk path
    let booted := (bootstrap given config).run application
    let AtFault := ConfigFile.AtFault application.environment application.disk path
    let Escapes := ConfigFile.Escapes application.environment application.disk path
    let exhausts? (layer : List (Value × Value)) :=
      (mergeValues layer given).findSome? (entryExhausts? application.room)
    ((∃ values, loaded = .ok values ∧ IsMapping values) ∨
        (∃ fault, loaded = .error (.config fault) ∧ AtFault fault) ∨
          ∃ failure, loaded = .error failure ∧ Escapes failure) ∧
      (∀ fault, AtFault fault →
        loaded = .error (.config fault) ∧
          (exhausts? [] = none → ∃ options problems, booted =
            loadPlugins.run (prepared application options (fault.message :: problems)))) ∧
      (∀ failure, Escapes failure →
        loaded = .error failure ∧ (∀ fault, failure ≠ .config fault) ∧
          booted = (.error failure, application)) ∧
      (∀ values exhaustion, loaded = .ok values → exhausts? values = some exhaustion →
        booted.1 = .error (.exhausted exhaustion)) ∧
      ∀ failure, booted.1 = .error failure →
        Escapes failure ∨ (∃ fault, failure = .registry fault) ∨
          ∃ exhaustion layer, failure = .exhausted exhaustion ∧
            exhausts? layer = some exhaustion ∧
              (loaded = .ok layer ∨ layer = [] ∧ ∃ fault, AtFault fault) := by
  intro loaded booted AtFault Escapes exhausts?
  have outcome := ConfigFile.load_outcome application.environment application.disk path
  have reported (fault : ConfigFault) (atFault : AtFault fault) :
      layerOf application.environment application.disk (configPath? application.disk config) =
        .ok ([], [fault.message]) := by
    rw [configures, layerOf, ConfigFile.load_of_atFault atFault]
  have configured (values : List (Value × Value))
      (loads : ConfigFile.load application.environment application.disk path = .ok values) :
      layerOf application.environment application.disk (configPath? application.disk config) =
        .ok (values, []) := by
    rw [configures, layerOf, loads]
  have ended (failure : Failure) (escapes : Escapes failure) :
      layerOf application.environment application.disk (configPath? application.disk config) =
        .error failure := by
    rw [configures, layerOf, ConfigFile.load_of_escapes escapes]
    cases failure with
    | config fault => exact absurd rfl (escapes.ne_config fault)
    | _ => rfl
  refine ⟨outcome, fun fault atFault => ⟨ConfigFile.load_of_atFault atFault, ?_⟩,
    fun failure escapes => ⟨ConfigFile.load_of_escapes escapes, escapes.ne_config,
      bootstrap_of_failure given (ended failure escapes)⟩, ?_, ?_⟩
  · intro told
    have boots := bootstrap_of_layer given (reported fault atFault) told
    dsimp only at boots
    rw [List.singleton_append] at boots
    exact ⟨_, _, boots⟩
  · intro values exhaustion loads exhausts
    exact congrArg Prod.fst (bootstrap_of_exhausted given (configured values loads) exhausts)
  intro failure fails
  have goesOn (layer : List (Value × Value)) (unloaded : List String)
      (layered : layerOf application.environment application.disk
        (configPath? application.disk config) = .ok (layer, unloaded)) :
      (∃ fault, failure = .registry fault) ∨
        ∃ exhaustion, failure = .exhausted exhaustion ∧ exhausts? layer = some exhaustion := by
    cases exhausts : exhausts? layer with
    | none =>
        have boots : booted = _ := bootstrap_of_layer given layered exhausts
        rw [boots] at fails
        exact Or.inl (loadPlugins_fails fails)
    | some exhaustion =>
        have boots : booted = _ := bootstrap_of_exhausted given layered exhausts
        rw [boots] at fails
        exact Or.inr ⟨exhaustion, (Except.error.inj fails).symm, rfl⟩
  rcases outcome with ⟨values, loads, _⟩ | ⟨fault, _, atFault⟩ | ⟨escaped, _, escapes⟩
  · refine Or.inr ((goesOn values [] (configured values loads)).imp_right ?_)
    rintro ⟨exhaustion, same, exhausts⟩
    exact ⟨exhaustion, values, same, exhausts, Or.inl loads⟩
  · refine Or.inr ((goesOn [] _ (reported fault atFault)).imp_right ?_)
    rintro ⟨exhaustion, same, exhausts⟩
    exact ⟨exhaustion, [], same, exhausts, Or.inr ⟨rfl, fault, atFault⟩⟩
  · have boots : booted = _ := bootstrap_of_failure given (ended escaped escapes)
    rw [boots] at fails
    exact Or.inl (Except.error.inj fails ▸ escapes)

/-- The type of the value that stands in a file in place of a name. -/
def misnamedType? (outcome : Except Failure (List (Value × Value))) : Option String :=
  (failureOf? outcome).bind fun failure =>
    match failure with
    | .notFileName typeName => some typeName
    | _ => none

theorem eq_notFileName {outcome : Except Failure (List (Value × Value))} {typeName : String}
    (misnamed : misnamedType? outcome = some typeName) :
    outcome = .error (.notFileName typeName) := by
  cases outcome with
  | ok values => cases misnamed
  | error failure =>
      cases failure with
      | notFileName other =>
          cases misnamed
          rfl
      | _ => cases misnamed

/-- A number stands among the inputs that a configuration file names. -/
def numberedDisk : Disk :=
  { tree := .directory [("quire.yaml", .file (Text.encode "input_files: [a, 3]\n".toList))]
    workingDirectory := [] }

theorem load_numberedDisk :
    ConfigFile.load .bare numberedDisk (Path.ofString "/quire.yaml") =
      .error (.notFileName "int") :=
  eq_notFileName (by decide +kernel)

/-- A configuration file may neither hold a mapping nor be at fault by its own account. -/
theorem not_load_returns_or_reports :
    ¬ ∀ (environment : Environment) (disk : Disk) (path : Path),
      (∃ values, ConfigFile.load environment disk path = .ok values) ∨
        ∃ fault, ConfigFile.load environment disk path = .error (.config fault) := by
  intro each
  rcases each .bare numberedDisk (Path.ofString "/quire.yaml") with ⟨values, loads⟩ | ⟨fault, fails⟩
  · rw [load_numberedDisk] at loads
    cases loads
  · rw [load_numberedDisk] at fails
    cases fails

/-- A number among the inputs ends the preparation. -/
theorem bootstrap_of_config_number :
    let start : Application Unit := .initial .bare numberedDisk .empty [] ()
    configPath? numberedDisk none = some (Path.ofString "/quire.yaml") ∧
      (bootstrap [] none).run start = (.error (.notFileName "int"), start) := by
  intro start
  have configures : configPath? numberedDisk none = some (Path.ofString "/quire.yaml") := by
    decide +kernel
  obtain ⟨outcome, _, ends, _⟩ := bootstrap_of_config start [] configures
  rcases outcome with ⟨values, loads, _⟩ | ⟨fault, fails, _⟩ | ⟨failure, fails, escapes⟩
  · cases load_numberedDisk.symm.trans loads
  · cases load_numberedDisk.symm.trans fails
  · cases load_numberedDisk.symm.trans fails
    exact ⟨configures, (ends _ escapes).2.2⟩

end ApiDocs.Application
