import ApiDocs.Proofs.Run.Loading

/-!
# Loading plugins again and again

A run may be prepared more than once, and its plugins may be asked for more than once, with other
settings each time.  Each time the built-in plugins are registered anew, and all names are gone
through; still every plugin is loaded once.
-/

namespace ApiDocs.Application

open ApiDocs.Computation

variable {Observed : Type}

/-! ## Calls -/

/-- What is done with one application: its surroundings and settings change, a run is prepared, or
plugins are loaded. -/
inductive LoadingCall where
  | change (environment : Environment) (disk : Disk) (options : Options)
  | bootstrap (given : List (Value × Value)) (config : Option String)
  | loadPlugins

def call : LoadingCall → Running Observed Unit
  | .change environment disk options =>
    modify fun application => { application with environment, disk, options }
  | .bootstrap given config => bootstrap given config
  | .loadPlugins => loadPlugins

/-- The application after a call, whether or not it has failed. -/
def after (application : Application Observed) (made : LoadingCall) : Application Observed :=
  ((call made).run application).2

def afterAll (application : Application Observed) (calls : List LoadingCall) :
    Application Observed :=
  calls.foldl after application

/-! ## Names that are gone through -/

/-- The application with the built-in plugins registered. -/
def discovered (application : Application Observed) : Application Observed :=
  { application with registry := application.registry.registered Plugin.builtIn }

def discovered? (application : Application Observed) : Option (Application Observed) :=
  if (application.registry.registerAll Plugin.builtIn).2 = none then some application.discovered
  else none

/-- The application when a call comes to the plugins; nothing if the call does not get there. -/
def offering? (application : Application Observed) :
    LoadingCall → Option (Application Observed)
  | .change _ _ _ => none
  | .bootstrap given config =>
    match application.settledOf given config with
    | .error _ => none
    | .ok (options, problems) => (prepared application options problems).discovered?
  | .loadPlugins => application.discovered?

/-- The names that are gone through. -/
def offered (application : Application Observed) : List String :=
  ["analytics", "footer", "hidden"] ++ application.options.textsOf .plugins

/-- The attempts of a call. -/
def attemptsOf (application : Application Observed) (made : LoadingCall) :
    List (Attempt Observed) :=
  match application.offering? made with
  | none => []
  | some offering => offering.attempts offering.offered

/-- The attempts of several calls, each with the application as it is then. -/
def history (application : Application Observed) : List LoadingCall → List (Attempt Observed)
  | [] => []
  | made :: calls => application.attemptsOf made ++ history (application.after made) calls

theorem history_append (application : Application Observed) (calls others : List LoadingCall) :
    application.history (calls ++ others) =
      application.history calls ++ (application.afterAll calls).history others := by
  induction calls generalizing application with
  | nil => rfl
  | cons made calls inductionHypothesis =>
      rw [List.cons_append, history, history, inductionHypothesis, List.append_assoc]
      rfl

/-! ## One call -/

theorem eq_discovered {application offering : Application Observed}
    (discovers : application.discovered? = some offering) :
    offering = application.discovered ∧
      application.registry.registerAll Plugin.builtIn =
        (application.registry.registered Plugin.builtIn, none) := by
  rw [discovered?] at discovers
  by_cases registers : (application.registry.registerAll Plugin.builtIn).2 = none
  · rw [if_pos registers] at discovers
    cases discovers
    exact ⟨rfl, Registry.registerAll_of_admits Plugin.builtIn_names_nodup
      (Registry.admits_of_registerAll Plugin.builtIn_names_nodup registers)⟩
  · rw [if_neg registers] at discovers
    cases discovers

theorem loadPlugins_run_of_some {application offering : Application Observed}
    (discovers : application.discovered? = some offering) :
    loadPlugins.run application = (.ok (), offering.equippedAll offering.offered) := by
  obtain ⟨rfl, registers⟩ := eq_discovered discovers
  rw [loadPlugins_run, registers]
  rfl

theorem loadPlugins_run_of_none {application : Application Observed}
    (discovers : application.discovered? = none) :
    ∃ failure, loadPlugins.run application =
      (.error failure,
        { application with registry := (application.registry.registerAll Plugin.builtIn).1 }) := by
  rw [loadPlugins_run]
  rcases registers : application.registry.registerAll Plugin.builtIn with ⟨registry, _ | fault⟩
  · rw [discovered?, registers, if_pos rfl] at discovers
    cases discovers
  · exact ⟨.registry fault, rfl⟩

/-- Before plugins are gone through, no more happens to them than that the built-in ones are
registered. -/
structure Approaches (before middle : Application Observed) : Prop where
  modules : middle.modules = before.modules
  listeners : middle.listeners = before.listeners
  loaded : middle.loaded = before.loaded
  registry : middle.registry = before.registry ∨
    middle.registry = (before.registry.registerAll Plugin.builtIn).1

theorem call_of_offering {before offering : Application Observed} {made : LoadingCall}
    (offers : before.offering? made = some offering) :
    (call made).run before = (.ok (), offering.equippedAll offering.offered) ∧
      offering.registry = before.registry.registered Plugin.builtIn ∧
        Approaches before offering := by
  cases made with
  | change environment disk options => cases offers
  | loadPlugins =>
      have runs := loadPlugins_run_of_some offers
      obtain ⟨rfl, registers⟩ := eq_discovered offers
      exact ⟨runs, rfl, rfl, rfl, rfl, .inr (congrArg Prod.fst registers).symm⟩
  | bootstrap given config =>
      rw [offering?] at offers
      cases settles : before.settledOf given config with
      | error failure =>
          rw [settles] at offers
          cases offers
      | ok settled =>
          rw [settles] at offers
          have runs := (bootstrap_of_settledOf settles).trans (loadPlugins_run_of_some offers)
          obtain ⟨rfl, registers⟩ := eq_discovered offers
          exact ⟨runs, rfl, rfl, rfl, rfl, .inr (congrArg Prod.fst registers).symm⟩

theorem call_of_no_offering {before : Application Observed} {made : LoadingCall}
    (offers : before.offering? made = none) :
    Approaches before (before.after made) ∧
      ((∀ environment disk options, made ≠ .change environment disk options) →
        ∃ failure, ((call made).run before).1 = .error failure) := by
  cases made with
  | change environment disk options =>
      exact ⟨⟨rfl, rfl, rfl, .inl rfl⟩, fun isLoading => absurd rfl (isLoading _ _ _)⟩
  | loadPlugins =>
      obtain ⟨failure, fails⟩ := loadPlugins_run_of_none offers
      rw [after, call, fails]
      exact ⟨⟨rfl, rfl, rfl, .inr rfl⟩, fun _ => ⟨failure, rfl⟩⟩
  | bootstrap given config =>
      rw [offering?] at offers
      cases settles : before.settledOf given config with
      | error failure =>
          obtain ⟨options, fails⟩ := bootstrap_of_settledOf_error settles
          rw [after, call, fails]
          exact ⟨⟨rfl, rfl, rfl, .inl rfl⟩, fun _ => ⟨failure, rfl⟩⟩
      | ok settled =>
          rw [settles] at offers
          obtain ⟨failure, fails⟩ := loadPlugins_run_of_none offers
          rw [after, call, bootstrap_of_settledOf settles, fails]
          exact ⟨⟨rfl, rfl, rfl, .inr rfl⟩, fun _ => ⟨failure, rfl⟩⟩

/-! ## What is found -/

/-- What is found for a name depends on the known plugins and modules alone. -/
theorem loaderOf_congr {first second : Application Observed}
    (sameModules : second.modules = first.modules)
    (sameFound : ∀ name, second.registry.find? name = first.registry.find? name) :
    second.loaderOf = first.loaderOf := by
  funext name
  rw [loaderOf, loaderOf, sameModules, sameFound]

namespace Approaches

variable {before middle : Application Observed}

/-- Registering the built-in plugins once more changes nothing that is found. -/
theorem loaderOf_discovered (approaches : Approaches before middle) :
    middle.discovered.loaderOf = before.discovered.loaderOf := by
  refine loaderOf_congr approaches.modules fun name => ?_
  rw [discovered, discovered]
  rcases approaches.registry with same | again
  · rw [same]
  · rw [again]
    exact Registry.find?_registered_registerAll before.registry Plugin.builtIn_names_nodup name

theorem admits (approaches : Approaches before middle)
    (admits : ∀ plugin ∈ Plugin.builtIn, before.registry.Admits plugin) :
    ∀ plugin ∈ Plugin.builtIn, middle.registry.Admits plugin := by
  rcases approaches.registry with same | again
  · exact same ▸ admits
  · rw [again, Registry.registerAll_of_admits Plugin.builtIn_names_nodup admits]
    exact Registry.admits_registered Plugin.builtIn_names_nodup

end Approaches

theorem loaderOf_builtIn (application : Application Observed) :
    ∀ plugin ∈ Plugin.builtIn, application.discovered.loaderOf plugin.name = .ok plugin.load := by
  intro plugin member
  rw [loaderOf, discovered, Registry.find?_registered_of_mem Plugin.builtIn_names_nodup member]

/-! ## Many calls -/

/-- How far a run has come by a history of attempts. -/
structure Trail (start application : Application Observed) (history : List (Attempt Observed)) :
    Prop where
  loaders : application.discovered.loaderOf = start.discovered.loaderOf
  listeners : application.listeners = Attempt.runAll history start.listeners
  loaded : application.loaded = history.flatMap Attempt.loaded
  distinct : application.loaded.Nodup
  made : ∀ attempt ∈ history, ∃ listeners,
    attempt = .made attempt.name (start.discovered.loaderOf attempt.name) listeners
  begins : history = [] ∨ ∃ foreign, history = Plugin.builtIn.map Attempt.ofPlugin ++ foreign ∧
    ∀ attempt ∈ foreign, attempt.name ∉ ["analytics", "footer", "hidden"]

theorem exists_builtIn_of_mem {name : String}
    (isBuiltIn : name ∈ ["analytics", "footer", "hidden"]) :
    ∃ plugin ∈ (Plugin.builtIn : List (Plugin Observed)), plugin.name = name :=
  List.mem_map.mp isBuiltIn

/-- No call changes what is found. -/
theorem Trail.loaderOf_offering {start application offering : Application Observed}
    {earlier : List (Attempt Observed)} {made : LoadingCall}
    (trail : Trail start application earlier) (offers : application.offering? made = some offering) :
    offering.loaderOf = start.discovered.loaderOf := by
  obtain ⟨_, registers, approaches⟩ := call_of_offering offers
  have same : offering.loaderOf = application.discovered.loaderOf :=
    loaderOf_congr approaches.modules fun name => congrArg (·.find? name) registers
  exact same.trans trail.loaders

/-- Of all calls, the first that comes to the plugins attempts the built-in ones, and no other. -/
theorem Trail.begins_offering {start application offering : Application Observed}
    {earlier : List (Attempt Observed)} (trail : Trail start application earlier)
    (loaders : offering.loaderOf = start.discovered.loaderOf)
    (loaded : offering.loaded = application.loaded) :
    ∃ foreign,
      earlier ++ offering.attempts offering.offered =
        Plugin.builtIn.map Attempt.ofPlugin ++ foreign ∧
      ∀ attempt ∈ foreign, attempt.name ∉ ["analytics", "footer", "hidden"] := by
  have found : ∀ plugin ∈ Plugin.builtIn, offering.loaderOf plugin.name = .ok plugin.load :=
    loaders ▸ loaderOf_builtIn start
  have returns : ∀ plugin ∈ (Plugin.builtIn : List (Plugin Observed)), ∀ listeners,
      (plugin.load.run listeners).1 = .ok () :=
    fun plugin member listeners => Plugin.builtIn_loads listeners plugin member
  have isLoaded : ∀ name ∈ ["analytics", "footer", "hidden"],
      name ∈ (offering.equippedAll ["analytics", "footer", "hidden"]).loaded := by
    intro name member
    obtain ⟨plugin, isPlugin, rfl⟩ := @exists_builtIn_of_mem Observed name member
    exact mem_loaded_of_succeeds member
      ⟨plugin.load, found plugin isPlugin, returns plugin isPlugin⟩
  have others : ∀ attempt ∈ (offering.equippedAll ["analytics", "footer", "hidden"]).attempts
      (offering.options.textsOf .plugins), attempt.name ∉ ["analytics", "footer", "hidden"] := by
    intro attempt member isBuiltIn
    obtain ⟨_, isNew, _⟩ := attempts_made _ _ attempt member
    exact isNew (isLoaded attempt.name isBuiltIn)
  rw [offered, attempts_append]
  rcases trail.begins with rfl | ⟨foreign, rfl, isForeign⟩
  · have isNew : ∀ plugin ∈ (Plugin.builtIn : List (Plugin Observed)),
        plugin.name ∉ offering.loaded := by
      rw [loaded, trail.loaded]
      exact fun _ _ => List.not_mem_nil
    have first : offering.attempts ["analytics", "footer", "hidden"] =
        Plugin.builtIn.map Attempt.ofPlugin :=
      attempts_of_plugins Plugin.builtIn_names_nodup isNew found returns
    rw [first]
    exact ⟨_, List.nil_append _, others⟩
  · have isOld : ∀ name ∈ ["analytics", "footer", "hidden"], name ∈ offering.loaded := by
      rw [loaded, trail.loaded, List.flatMap_append]
      exact fun name member => List.mem_append_left _ member
    rw [attempts_of_loaded isOld, List.nil_append]
    refine ⟨foreign ++ _, List.append_assoc _ _ _, fun attempt member => ?_⟩
    exact (List.mem_append.mp member).elim (isForeign attempt) (others attempt)

/-- What one call adds to a history. -/
theorem Trail.after {start application : Application Observed}
    {earlier : List (Attempt Observed)} (trail : Trail start application earlier)
    (made : LoadingCall) :
    Trail start (application.after made) (earlier ++ application.attemptsOf made) := by
  cases offers : application.offering? made with
  | none =>
      obtain ⟨approaches, _⟩ := call_of_no_offering offers
      rw [attemptsOf, offers, List.append_nil]
      exact
        { loaders := approaches.loaderOf_discovered.trans trail.loaders
          listeners := approaches.listeners.trans trail.listeners
          loaded := approaches.loaded.trans trail.loaded
          distinct := approaches.loaded ▸ trail.distinct
          made := trail.made
          begins := trail.begins }
  | some offering =>
      obtain ⟨runs, _, approaches⟩ := call_of_offering offers
      have found := trail.loaderOf_offering offers
      rw [attemptsOf, offers, Application.after, runs]
      exact
        { loaders := by
            rw [equippedAll_eq]
            exact approaches.loaderOf_discovered.trans trail.loaders
          listeners := by
            rw [equippedAll_eq, Attempt.runAll, Attempt.runAll, List.foldl_append,
              approaches.listeners, trail.listeners]
            rfl
          loaded := by
            rw [loaded_equippedAll, approaches.loaded, trail.loaded, List.flatMap_append]
          distinct := loaded_equippedAll_nodup (approaches.loaded ▸ trail.distinct) _
          made := by
            intro attempt member
            rcases List.mem_append.mp member with isEarlier | isLater
            · exact trail.made attempt isEarlier
            · obtain ⟨_, _, isMade⟩ := attempts_made offering _ attempt isLater
              exact found ▸ isMade
          begins := .inr (trail.begins_offering found approaches.loaded) }

theorem Trail.afterAll {start application : Application Observed}
    {earlier : List (Attempt Observed)} (trail : Trail start application earlier)
    (calls : List LoadingCall) :
    Trail start (application.afterAll calls) (earlier ++ application.history calls) := by
  induction calls generalizing application earlier with
  | nil => exact (List.append_nil earlier).symm ▸ trail
  | cons made calls inductionHypothesis =>
      rw [history, ← List.append_assoc]
      exact inductionHypothesis (trail.after made)

/-! ## Listeners -/

/-- Attempts that do nothing but register listeners contribute them. -/
theorem runAll_eq_extend {foreign : List (Attempt Observed)}
    {contribution : Attempt Observed → Contribution Observed}
    (registers : ∀ attempt ∈ foreign, ∀ listeners,
      attempt.run listeners = listeners.extend (contribution attempt))
    (listeners : Listeners Observed) :
    Attempt.runAll foreign listeners = listeners.extend (.join (foreign.map contribution)) := by
  rw [Listeners.extend_join]
  induction foreign generalizing listeners with
  | nil => rfl
  | cons attempt foreign inductionHypothesis =>
      obtain ⟨registersFirst, registersLater⟩ := List.forall_mem_cons.mp registers
      rw [Attempt.runAll, List.foldl_cons, registersFirst]
      exact inductionHypothesis registersLater _

/-- The built-in plugins have been loaded once, and before all others.  Where the others do nothing
but register listeners, those of the built-in plugins stand among them in their order. -/
structure BuiltInFirst (application : Application Observed) (foreign : List (Attempt Observed)) :
    Prop where
  names : ["analytics", "footer", "hidden"] <+: application.loaded
  isForeign : ∀ attempt ∈ foreign, attempt.name ∉ ["analytics", "footer", "hidden"]
  listeners : application.listeners =
    Attempt.runAll foreign (Listeners.empty.extend Plugin.builtInContribution)
  registered : ∀ contribution : Attempt Observed → Contribution Observed,
    (∀ attempt ∈ foreign, ∀ listeners,
      attempt.run listeners = listeners.extend (contribution attempt)) →
    IsStableSort Registration.order
        ([Plugin.analyticsRegistration, Plugin.footerRegistration] ++ Hooks.additionsFor .bodyEnd
          (Contribution.join (foreign.map contribution)).hooks)
        (application.listeners.hooks.registrations .bodyEnd) ∧
      [Plugin.analyticsRegistration, Plugin.footerRegistration].Sublist
        (application.listeners.hooks.registrations .bodyEnd) ∧
      IsStableSort Registration.order
        ([Plugin.hiddenRegistration] ++ Hooks.additionsFor .resolveBegin
          (Contribution.join (foreign.map contribution)).convert)
        (application.listeners.convert.registrations .resolveBegin)

theorem Trail.builtInFirst {start application : Application Observed}
    {foreign : List (Attempt Observed)} (initially : start.listeners = .empty)
    (trail : Trail start application (Plugin.builtIn.map Attempt.ofPlugin ++ foreign))
    (isForeign : ∀ attempt ∈ foreign, attempt.name ∉ ["analytics", "footer", "hidden"]) :
    BuiltInFirst application foreign := by
  have listeners : application.listeners =
      Attempt.runAll foreign (Listeners.empty.extend Plugin.builtInContribution) := by
    rw [trail.listeners, initially, Attempt.runAll, List.foldl_append, List.foldl_map]
    exact congrArg (Attempt.runAll foreign) (Plugin.builtIn_contributes Listeners.empty)
  refine ⟨?_, isForeign, listeners, fun contribution registers => ?_⟩
  · rw [trail.loaded, List.flatMap_append]
    exact List.prefix_append _ _
  · rw [runAll_eq_extend registers] at listeners
    have atEnd := Hooks.isStableSort_registerAll Plugin.isStableSort_builtIn_bodyEnd
      (Contribution.join (foreign.map contribution)).hooks
    have atBegin := Hooks.isStableSort_registerAll Plugin.isStableSort_builtIn_resolveBegin
      (Contribution.join (foreign.map contribution)).convert
    have before : (0 : Int) < footerOrder := by decide
    rw [listeners]
    refine ⟨atEnd, atEnd.pair_sublist ?_ ?_ before, atBegin⟩
    · exact List.mem_append_left _ List.mem_cons_self
    · exact List.mem_append_left _ (List.mem_cons_of_mem _ List.mem_cons_self)

/-! ## Every call -/

/-- What a call does that comes to the plugins: it goes through all names, and only what fails costs
an error, one at each occurrence. -/
structure GoesThrough (start offering after : Application Observed)
    (attempts : List (Attempt Observed)) : Prop where
  options : after.options = offering.options
  loaded : after.loaded = offering.loaded ++ attempts.flatMap Attempt.loaded
  messages : after.logger = offering.logger.logAll (attempts.map Attempt.message)
  succeeding : ∀ name ∈ offering.offered, Succeeds (start.discovered.loaderOf name) →
    name ∈ after.loaded
  failing : ∀ name, name ∉ after.loaded →
    (attempts.filter fun attempt => attempt.name = name).map (fun attempt => attempt.message.1) =
      List.replicate (offering.offered.count name) .error

/-- What holds after the last of several calls, with all attempts that these have made. -/
structure LoadsOnce (start before : Application Observed) (last : LoadingCall)
    (attempts : List (Attempt Observed)) : Prop where
  distinct : (before.after last).loaded.Nodup
  kept : before.loaded <+: (before.after last).loaded
  failing : ∀ name, Fails (start.discovered.loaderOf name) → name ∉ (before.after last).loaded
  builtIn :
    (attempts = [] ∧ (before.after last).loaded = [] ∧
      (before.after last).listeners = start.listeners) ∨
    ∃ foreign, attempts = Plugin.builtIn.map Attempt.ofPlugin ++ foreign ∧
      BuiltInFirst (before.after last) foreign
  returns : ∀ offering, before.offering? last = some offering →
    ((call last).run before).1 = .ok () ∧ attempts ≠ [] ∧ offering.loaded = before.loaded ∧
      GoesThrough start offering (before.after last) (before.attemptsOf last)
  fails : before.offering? last = none →
    (∀ environment disk options, last ≠ .change environment disk options) →
      ∃ failure, ((call last).run before).1 = .error failure
  /-- Where no other plugin holds the name of a built-in one, only the configuration file, or an
  entry that something is exhausted with, can keep a call from coming to the plugins. -/
  comes : (∀ plugin ∈ Plugin.builtIn, start.registry.Admits plugin) →
    before.offering? .loadPlugins ≠ none ∧
      ∀ given config, before.offering? (.bootstrap given config) = none ↔
        ∃ failure, before.settledOf given config = .error failure

theorem admits_afterAll {application : Application Observed}
    (admits : ∀ plugin ∈ Plugin.builtIn, application.registry.Admits plugin)
    (calls : List LoadingCall) :
    ∀ plugin ∈ Plugin.builtIn, (application.afterAll calls).registry.Admits plugin := by
  induction calls generalizing application with
  | nil => exact admits
  | cons made calls inductionHypothesis =>
      refine inductionHypothesis ?_
      cases offers : application.offering? made with
      | none => exact (call_of_no_offering offers).1.admits admits
      | some offering =>
          obtain ⟨runs, _, approaches⟩ := call_of_offering offers
          rw [after, runs, equippedAll_eq]
          exact approaches.admits admits

theorem discovered?_of_admits {application : Application Observed}
    (admits : ∀ plugin ∈ Plugin.builtIn, application.registry.Admits plugin) :
    application.discovered? = some application.discovered := by
  rw [discovered?, Registry.registerAll_of_admits Plugin.builtIn_names_nodup admits, if_pos rfl]

theorem comes_of_admits {application : Application Observed}
    (admits : ∀ plugin ∈ Plugin.builtIn, application.registry.Admits plugin) :
    application.offering? .loadPlugins ≠ none ∧
      ∀ given config, application.offering? (.bootstrap given config) = none ↔
        ∃ failure, application.settledOf given config = .error failure := by
  refine ⟨?_, fun given config => ?_⟩
  · rw [offering?, discovered?_of_admits admits]
    exact Option.some_ne_none _
  · rw [offering?]
    cases application.settledOf given config with
    | error failure => exact iff_of_true rfl ⟨failure, rfl⟩
    | ok settled =>
        have prepares (options : Options) (problems : List String) :
            (prepared application options problems).discovered? =
              some (prepared application options problems).discovered :=
          discovered?_of_admits admits
        exact iff_of_false (fun none => nomatch (prepares _ _).symm.trans none) nofun

theorem Trail.goesThrough {start before offering : Application Observed}
    {earlier : List (Attempt Observed)} {last : LoadingCall} (trail : Trail start before earlier)
    (offers : before.offering? last = some offering) :
    GoesThrough start offering (before.after last) (before.attemptsOf last) := by
  have runs := (call_of_offering offers).1
  have found := trail.loaderOf_offering offers
  have result : before.after last = offering.equippedAll offering.offered := by
    rw [Application.after, runs]
  rw [attemptsOf, offers]
  exact
    { options := by rw [result, equippedAll_eq]
      loaded := by rw [result, loaded_equippedAll]
      messages := by rw [result, equippedAll_eq]
      succeeding := fun name isOffered succeeds => by
        rw [result]
        exact mem_loaded_of_succeeds isOffered (found ▸ succeeds)
      failing := fun name isNot => levels_attempts_of_not_loaded (result ▸ isNot) }

/-- However often a run is prepared and its plugins are loaded, and whatever the settings are each
time: each plugin is loaded once, the built-in ones before all others. -/
theorem plugins_load_once
    (environment : Environment) (disk : Disk) (registry : Registry Observed)
    (modules : List (String × PluginModule Observed)) (observed : Observed)
    (calls : List LoadingCall) (last : LoadingCall) :
    let start := Application.initial environment disk registry modules observed
    LoadsOnce start (start.afterAll calls) last (start.history (calls ++ [last])) := by
  intro start
  have initially : Trail start start [] :=
    ⟨rfl, rfl, rfl, List.nodup_nil, List.forall_mem_nil _, .inl rfl⟩
  have trail : Trail start (start.afterAll calls) (start.history calls) := initially.afterAll calls
  have whole : start.history (calls ++ [last]) =
      start.history calls ++ (start.afterAll calls).attemptsOf last := by
    rw [history_append, history, history, List.append_nil]
  have trailAfter := trail.after last
  have admitted (admits : ∀ plugin ∈ Plugin.builtIn, start.registry.Admits plugin) :=
    admits_afterAll admits calls
  rw [whole]
  generalize start.afterAll calls = before at *
  generalize start.history calls = earlier at *
  have failing (name : String) (fails : Fails (start.discovered.loaderOf name)) :
      name ∉ (before.after last).loaded := by
    rw [trailAfter.loaded, Attempt.mem_loaded_iff]
    rintro ⟨attempt, member, rfl, succeeds⟩
    obtain ⟨listeners, isMade⟩ := trailAfter.made attempt member
    rw [isMade] at succeeds
    exact fails.fault?_made _ listeners succeeds
  refine
    { distinct := trailAfter.distinct
      kept := ?_
      failing := failing
      builtIn := ?_
      returns := fun offering offers => ?_
      fails := fun offers => (call_of_no_offering offers).2
      comes := fun admits => ?_ }
  · rw [trail.loaded, trailAfter.loaded, List.flatMap_append]
    exact List.prefix_append _ _
  · rcases trailAfter.begins with none | ⟨foreign, splits, isForeign⟩
    · exact .inl ⟨none, by rw [trailAfter.loaded, none, List.flatMap_nil], by
        rw [trailAfter.listeners, none]; rfl⟩
    · exact .inr ⟨foreign, splits, (splits ▸ trailAfter).builtInFirst rfl isForeign⟩
  · obtain ⟨runs, _, approaches⟩ := call_of_offering offers
    obtain ⟨foreign, splits, _⟩ := trail.begins_offering (trail.loaderOf_offering offers)
      approaches.loaded
    refine ⟨congrArg Prod.fst runs, ?_, approaches.loaded, trail.goesThrough offers⟩
    rw [attemptsOf, offers, splits]
    exact List.append_ne_nil_of_left_ne_nil (List.cons_ne_nil _ _) foreign
  · exact comes_of_admits (admitted admits)

/-- A run without known plugins. -/
def bareStart : Application Unit :=
  .initial .bare { tree := .directory [], workingDirectory := [] } .empty [] ()

/-- A preparation with a setting that names a missing plugin, a built-in one, and the missing one
again. -/
def missingCall : LoadingCall :=
  .bootstrap [(.text "plugins", .list [.text "missing", .text "footer", .text "missing"])] none

theorem fails_missing : Fails (bareStart.discovered.loaderOf "missing") := by
  have none : (bareStart.discovered.loaderOf "missing").toBool = false := by decide +kernel
  intro load found
  rw [found] at none
  cases none

theorem count_missing :
    ((bareStart.after missingCall).after .loadPlugins).offered.count "missing" = 2 := by
  decide +kernel

/-- Of the attempts only the first three, for the built-in plugins, find anything. -/
theorem finds_missing :
    (bareStart.history [missingCall, .loadPlugins]).map (fun attempt => attempt.load?.isSome) =
      [true, true, true] ++ [false, false, false, false] := by
  decide +kernel

/-- Plugins are loaded again after a preparation: the missing one costs two errors once more. -/
theorem plugins_load_once_missing :
    let before := bareStart.after missingCall
    let after := before.after .loadPlugins
    after.loaded.Nodup ∧ "missing" ∉ after.loaded ∧
      ["analytics", "footer", "hidden"] <+: after.loaded ∧
      after.listeners.hooks.registrations .bodyEnd =
        [Plugin.analyticsRegistration, Plugin.footerRegistration] ∧
      (((before.attemptsOf .loadPlugins).filter fun attempt => attempt.name = "missing").map
        fun attempt => attempt.message.1) = [.error, .error] := by
  intro before after
  have admits : ∀ plugin ∈ Plugin.builtIn, bareStart.registry.Admits plugin :=
    fun plugin _ owner found => nomatch found
  have loads : LoadsOnce bareStart before .loadPlugins
      (bareStart.history [missingCall, .loadPlugins]) :=
    plugins_load_once .bare { tree := .directory [], workingDirectory := [] } .empty [] ()
      [missingCall] .loadPlugins
  have isNot := loads.failing "missing" fails_missing
  obtain ⟨offering, offers⟩ := Option.ne_none_iff_exists'.mp (loads.comes admits).1
  obtain ⟨_, begun, _, through⟩ := loads.returns offering offers
  obtain ⟨foreign, splits, first⟩ := loads.builtIn.resolve_left fun none => begun none.1
  have levels := through.failing "missing" isNot
  have offered : offering.offered = after.offered := by
    rw [Application.offered, Application.offered, ← through.options]
  rw [offered, count_missing] at levels
  have found : foreign.map (fun attempt => attempt.load?.isSome) = List.replicate 4 false := by
    have whole := finds_missing
    rw [splits, List.map_append] at whole
    exact List.append_cancel_left whole
  have nothing : ∀ attempt ∈ foreign, attempt.load? = none := by
    intro attempt member
    have isNone : attempt.load?.isSome = false :=
      List.eq_of_mem_replicate (found ▸ List.mem_map_of_mem member)
    simpa using isNone
  obtain ⟨isSort, _⟩ := first.registered (fun _ => ⟨[], [], []⟩) fun attempt member listeners => by
    rw [Attempt.run, nothing attempt member]
    rfl
  have none : (Contribution.join (foreign.map fun _ =>
      (⟨[], [], []⟩ : Contribution Unit))).hooks = [] :=
    List.flatMap_eq_nil_iff.mpr fun _ member => by
      obtain ⟨_, _, rfl⟩ := List.mem_map.mp member
      rfl
  rw [none] at isSort
  refine ⟨loads.distinct, isNot, first.names, isSort.unique ?_, levels⟩
  exact IsStableSort.nil.insertAll [Plugin.analyticsRegistration, Plugin.footerRegistration]

end ApiDocs.Application
