import ApiDocs.Proofs.Plugins.Contributions
import ApiDocs.Proofs.Plugins.Registry
import ApiDocs.Proofs.Run.Preparation

/-!
# Loading plugins by name

Plugins are loaded by name.  A name that is loaded is passed over from then on; each other
occurrence of a name is one attempt, which loads the name or costs one error.
-/

namespace ApiDocs.Application

variable {Observed : Type}

/-! ## Attempts -/

/-- An attempt to load a name: what was loaded, if anything was found, and what went wrong. -/
structure Attempt (Observed : Type) where
  name : String
  load? : Option (Loading Observed Unit)
  fault? : Option PluginFault

namespace Attempt

/-- The attempt to load what has been found for a name, with the listeners that there are. -/
def made (name : String) (loader : Except PluginFault (Loading Observed Unit))
    (listeners : Listeners Observed) : Attempt Observed :=
  match loader with
  | .error fault => { name, load? := none, fault? := some fault }
  | .ok load =>
    { name
      load? := some load
      fault? :=
        match (load.run listeners).1 with
        | .ok () => none
        | .error failure => some (.failed failure) }

/-- The listeners after an attempt. -/
def run (attempt : Attempt Observed) (listeners : Listeners Observed) : Listeners Observed :=
  match attempt.load? with
  | none => listeners
  | some load => (load.run listeners).2

def runAll (attempts : List (Attempt Observed)) (listeners : Listeners Observed) :
    Listeners Observed :=
  attempts.foldl (fun listeners attempt => attempt.run listeners) listeners

/-- The name, if it is loaded by the attempt. -/
def loaded (attempt : Attempt Observed) : List String :=
  match attempt.fault? with
  | none => [attempt.name]
  | some _ => []

def message (attempt : Attempt Observed) : Level × String :=
  match attempt.fault? with
  | none => (.verbose, s!"Loaded plugin {attempt.name}")
  | some fault => (.error, s!"The plugin {attempt.name} could not be loaded: {fault.message}")

@[simp] theorem name_made (name : String) (loader : Except PluginFault (Loading Observed Unit))
    (listeners : Listeners Observed) : (made name loader listeners).name = name := by
  cases loader <;> rfl

theorem loaded_eq (attempt : Attempt Observed) :
    attempt.loaded = if attempt.fault? = none then [attempt.name] else [] := by
  rw [loaded]
  cases attempt.fault? <;> rfl

theorem isError_message_iff (attempt : Attempt Observed) :
    attempt.message.1 = .error ↔ attempt.fault? ≠ none := by
  rw [message]
  cases attempt.fault? <;> simp

theorem mem_loaded_iff {attempts : List (Attempt Observed)} {name : String} :
    name ∈ attempts.flatMap loaded ↔
      ∃ attempt ∈ attempts, attempt.name = name ∧ attempt.fault? = none := by
  rw [List.mem_flatMap]
  refine exists_congr fun attempt => and_congr_right fun _ => ?_
  rw [loaded_eq]
  by_cases succeeds : attempt.fault? = none
  · simp [succeeds, eq_comm]
  · simp [succeeds]

end Attempt

/-- What is found for a name is never loaded: there is nothing, or it always fails. -/
def Fails (loader : Except PluginFault (Loading Observed Unit)) : Prop :=
  ∀ load, loader = .ok load → ∀ listeners, ∃ failure, (load.run listeners).1 = .error failure

/-- What is found for a name is always loaded. -/
def Succeeds (loader : Except PluginFault (Loading Observed Unit)) : Prop :=
  ∃ load, loader = .ok load ∧ ∀ listeners, (load.run listeners).1 = .ok ()

section Outcomes

variable {loader : Except PluginFault (Loading Observed Unit)}

theorem Fails.fault?_made (fails : Fails loader) (name : String)
    (listeners : Listeners Observed) : (Attempt.made name loader listeners).fault? ≠ none := by
  cases loader with
  | error fault => exact Option.some_ne_none fault
  | ok load =>
      obtain ⟨failure, failed⟩ := fails load rfl listeners
      simp [Attempt.made, failed]

theorem Succeeds.fault?_made (succeeds : Succeeds loader) (name : String)
    (listeners : Listeners Observed) : (Attempt.made name loader listeners).fault? = none := by
  obtain ⟨load, rfl, returns⟩ := succeeds
  simp [Attempt.made, returns]

end Outcomes

/-! ## One name -/

def attempt (application : Application Observed) (name : String) : Attempt Observed :=
  .made name (application.loaderOf name) application.listeners

theorem equipped_eq (application : Application Observed) (name : String) :
    application.equipped name =
      { application with
        listeners := (application.attempt name).run application.listeners
        loaded := application.loaded ++ (application.attempt name).loaded
        logger := application.logger.log (application.attempt name).message.1
          (application.attempt name).message.2 } := by
  rw [equipped, attempt]
  cases loaderOf application name with
  | error fault =>
      simp only [Attempt.made, Attempt.run, Attempt.loaded, List.append_nil]
      rfl
  | ok load =>
      rcases ran : load.run application.listeners with ⟨outcome, listeners⟩
      cases outcome with
      | error failure =>
          simp only [Attempt.made, Attempt.run, Attempt.loaded, ran, List.append_nil]
          rfl
      | ok _ =>
          simp only [Attempt.made, Attempt.run, Attempt.loaded, ran]
          rfl

theorem loaded_equipped (application : Application Observed) (name : String) :
    (application.equipped name).loaded = application.loaded ++ (application.attempt name).loaded := by
  rw [equipped_eq]

/-- What is found for names does not depend on what has been loaded. -/
theorem loaderOf_equipped (application : Application Observed) (name : String) :
    (application.equipped name).loaderOf = application.loaderOf := by
  rw [equipped_eq]
  rfl

/-! ## Several names -/

/-- The attempts that are made for a list of names. -/
def attempts (application : Application Observed) : List String → List (Attempt Observed)
  | [] => []
  | name :: names =>
    if application.loaded.contains name then attempts application names
    else application.attempt name :: attempts (application.equipped name) names

theorem equippedAll_cons (application : Application Observed) (name : String)
    (names : List String) :
    application.equippedAll (name :: names) =
      if application.loaded.contains name then application.equippedAll names
      else (application.equipped name).equippedAll names := by
  rw [equippedAll, List.foldl_cons]
  cases application.loaded.contains name <;> rfl

theorem equippedAll_eq (application : Application Observed) (names : List String) :
    application.equippedAll names =
      { application with
        listeners := Attempt.runAll (application.attempts names) application.listeners
        loaded := application.loaded ++ (application.attempts names).flatMap Attempt.loaded
        logger :=
          application.logger.logAll ((application.attempts names).map Attempt.message) } := by
  induction names generalizing application with
  | nil => simp only [equippedAll, attempts, List.flatMap_nil, List.append_nil]; rfl
  | cons name names inductionHypothesis =>
      rw [equippedAll_cons, attempts]
      cases application.loaded.contains name with
      | true => exact inductionHypothesis application
      | false =>
          simp only [Bool.false_eq_true, if_false]
          rw [inductionHypothesis, equipped_eq]
          simp only [List.flatMap_cons, List.append_assoc]
          rfl

theorem loaded_equippedAll (application : Application Observed) (names : List String) :
    (application.equippedAll names).loaded =
      application.loaded ++ (application.attempts names).flatMap Attempt.loaded := by
  rw [equippedAll_eq]

/-- Every attempt is for a name of the list that was not loaded before. -/
theorem attempts_made (application : Application Observed) (names : List String) :
    ∀ attempt ∈ application.attempts names,
      attempt.name ∈ names ∧ attempt.name ∉ application.loaded ∧
        ∃ listeners, attempt = .made attempt.name (application.loaderOf attempt.name) listeners := by
  induction names generalizing application with
  | nil => exact List.forall_mem_nil _
  | cons name names inductionHypothesis =>
      rw [attempts]
      by_cases isLoaded : application.loaded.contains name = true
      · rw [if_pos isLoaded]
        intro attempt member
        obtain ⟨isName, isNew, isMade⟩ := inductionHypothesis application attempt member
        exact ⟨List.mem_cons_of_mem name isName, isNew, isMade⟩
      · rw [if_neg isLoaded, List.forall_mem_cons]
        rw [List.contains_iff_mem] at isLoaded
        refine ⟨?_, fun attempt member => ?_⟩
        · rw [Application.attempt, Attempt.name_made]
          exact ⟨List.mem_cons_self, isLoaded, application.listeners, rfl⟩
        · obtain ⟨isName, isNew, isMade⟩ := inductionHypothesis _ attempt member
          rw [loaded_equipped, List.mem_append, not_or] at isNew
          rw [loaderOf_equipped] at isMade
          exact ⟨List.mem_cons_of_mem name isName, isNew.1, isMade⟩

theorem attempts_append (application : Application Observed) (names others : List String) :
    application.attempts (names ++ others) =
      application.attempts names ++ (application.equippedAll names).attempts others := by
  induction names generalizing application with
  | nil => rfl
  | cons name names inductionHypothesis =>
      rw [List.cons_append, attempts, attempts, equippedAll_cons]
      split
      · exact inductionHypothesis application
      · exact congrArg _ (inductionHypothesis (application.equipped name))

/-- A name is loaded at most once. -/
theorem loaded_equippedAll_nodup {application : Application Observed}
    (distinct : application.loaded.Nodup) (names : List String) :
    (application.equippedAll names).loaded.Nodup := by
  induction names generalizing application with
  | nil => exact distinct
  | cons name names inductionHypothesis =>
      rw [equippedAll_cons]
      by_cases isLoaded : application.loaded.contains name = true
      · rw [if_pos isLoaded]
        exact inductionHypothesis distinct
      · rw [if_neg isLoaded]
        rw [List.contains_iff_mem] at isLoaded
        refine inductionHypothesis ?_
        rw [loaded_equipped, Attempt.loaded_eq, attempt, Attempt.name_made]
        split
        · exact List.nodup_append_comm.mp (List.nodup_cons.mpr ⟨isLoaded, distinct⟩)
        · exact (List.append_nil application.loaded).symm ▸ distinct

/-- A name that is not loaded in the end has cost one error at each of its occurrences. -/
theorem levels_attempts_of_not_loaded {application : Application Observed} {names : List String}
    {name : String} (isNot : name ∉ (application.equippedAll names).loaded) :
    ((application.attempts names).filter fun attempt => attempt.name = name).map
        (fun attempt => attempt.message.1) =
      List.replicate (names.count name) .error := by
  induction names generalizing application with
  | nil => rfl
  | cons other names inductionHypothesis =>
      rw [equippedAll_cons] at isNot
      rw [attempts]
      by_cases isLoaded : application.loaded.contains other = true
      · rw [if_pos isLoaded] at isNot ⊢
        rw [List.contains_iff_mem] at isLoaded
        have different : other ≠ name := by
          rintro rfl
          rw [loaded_equippedAll] at isNot
          exact isNot (List.mem_append_left _ isLoaded)
        rw [List.count_cons_of_ne different, inductionHypothesis isNot]
      · rw [if_neg isLoaded] at isNot ⊢
        have later := inductionHypothesis isNot
        by_cases same : other = name
        · subst same
          have fails : (application.attempt other).fault? ≠ none := by
            intro succeeds
            rw [loaded_equippedAll, loaded_equipped, Attempt.loaded_eq, if_pos succeeds, attempt,
              Attempt.name_made] at isNot
            exact isNot (List.mem_append_left _ (List.mem_append_right _ List.mem_cons_self))
          have isFirst : decide ((application.attempt other).name = other) = true :=
            decide_eq_true (Attempt.name_made _ _ _)
          rw [List.count_cons_self, List.replicate_succ, List.filter_cons, if_pos isFirst,
            List.map_cons, later, (Attempt.isError_message_iff _).mpr fails]
        · have isOther : ¬ decide ((application.attempt other).name = name) = true := by
            rw [attempt, Attempt.name_made, decide_eq_true_eq]
            exact same
          rw [List.count_cons_of_ne same, List.filter_cons, if_neg isOther, later]

/-- What always succeeds is loaded in the end, whatever stands before it. -/
theorem mem_loaded_of_succeeds {application : Application Observed} {names : List String}
    {name : String} (isOffered : name ∈ names) (succeeds : Succeeds (application.loaderOf name)) :
    name ∈ (application.equippedAll names).loaded := by
  refine Decidable.of_not_not fun isNot => ?_
  have levels := levels_attempts_of_not_loaded isNot
  have occurs : names.count name ≠ 0 := Nat.ne_of_gt (List.count_pos_iff.mpr isOffered)
  cases found : (application.attempts names).filter fun attempt => attempt.name = name with
  | nil =>
      rw [found, List.map_nil] at levels
      exact occurs (List.replicate_eq_nil_iff _ |>.mp levels.symm)
  | cons attempt others =>
      obtain ⟨member, isName⟩ := List.mem_filter.mp (found ▸ List.mem_cons_self)
      have isName := of_decide_eq_true isName
      obtain ⟨_, _, listeners, isMade⟩ := attempts_made application names attempt member
      rw [isName] at isMade
      have returns := succeeds.fault?_made name listeners
      rw [← isMade] at returns
      refine isNot ?_
      rw [loaded_equippedAll]
      exact List.mem_append_right _ (Attempt.mem_loaded_iff.mpr ⟨attempt, member, isName, returns⟩)

/-! ## Plugins that always succeed -/

/-- The attempt that loads a plugin. -/
def Attempt.ofPlugin (plugin : Plugin Observed) : Attempt Observed :=
  { name := plugin.name, load? := some plugin.load, fault? := none }

theorem attempts_of_plugins {application : Application Observed} {plugins : List (Plugin Observed)}
    (distinct : (plugins.map Plugin.name).Nodup)
    (isNew : ∀ plugin ∈ plugins, plugin.name ∉ application.loaded)
    (found : ∀ plugin ∈ plugins, application.loaderOf plugin.name = .ok plugin.load)
    (returns : ∀ plugin ∈ plugins, ∀ listeners, (plugin.load.run listeners).1 = .ok ()) :
    application.attempts (plugins.map Plugin.name) = plugins.map Attempt.ofPlugin := by
  induction plugins generalizing application with
  | nil => rfl
  | cons plugin plugins inductionHypothesis =>
      obtain ⟨isOnly, distinctLater⟩ := List.nodup_cons.mp distinct
      obtain ⟨isNewFirst, isNewLater⟩ := List.forall_mem_cons.mp isNew
      obtain ⟨foundFirst, foundLater⟩ := List.forall_mem_cons.mp found
      obtain ⟨returnsFirst, returnsLater⟩ := List.forall_mem_cons.mp returns
      have isAttempt : application.attempt plugin.name = .ofPlugin plugin := by
        rw [attempt, foundFirst, Attempt.made, returnsFirst, Attempt.ofPlugin]
      have isLoaded : ¬ application.loaded.contains plugin.name = true := by
        rw [List.contains_iff_mem]
        exact isNewFirst
      rw [List.map_cons, attempts, if_neg isLoaded, isAttempt, List.map_cons]
      refine congrArg _ (inductionHypothesis distinctLater (fun other member => ?_)
        (loaderOf_equipped application plugin.name ▸ foundLater) returnsLater)
      rw [loaded_equipped, isAttempt, List.mem_append, not_or]
      refine ⟨isNewLater other member, fun isName => isOnly ?_⟩
      have same : other.name = plugin.name := List.mem_singleton.mp isName
      exact same ▸ List.mem_map_of_mem member

theorem attempts_of_loaded {application : Application Observed} {names : List String}
    (isLoaded : ∀ name ∈ names, name ∈ application.loaded) : application.attempts names = [] := by
  refine List.eq_nil_iff_forall_not_mem.mpr fun attempt member => ?_
  obtain ⟨isName, isNew, _⟩ := attempts_made application names attempt member
  exact isNew (isLoaded attempt.name isName)

end ApiDocs.Application
