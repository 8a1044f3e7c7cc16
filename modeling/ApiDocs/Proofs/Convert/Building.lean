import ApiDocs.Convert.Converter
import ApiDocs.Proofs.Computation
import ApiDocs.Proofs.Convert.Graft
import Mathlib.Logic.Function.Iterate

/-!
# What a conversion builds

When no listener changes the model but those that remove hidden declarations, the model that a
conversion builds is the outlines of its sources, grafted below the project in the order of the
sources, of which some members may have been removed.
-/

namespace ApiDocs.Convert

open ApiDocs.Computation

variable {Observed : Type}

/-! ## Listeners -/

/-- A listener leaves the model alone, whatever it observes. -/
def Observes (listener : ConvertListener Observed) : Prop :=
  ∀ key origin model observed, ((listener key origin).run (model, observed)).2.1 = model

/-- A listener removes hidden declarations. -/
def Hides (listener : ConvertListener Observed) : Prop :=
  ∀ key origin model observed,
    ((listener key origin).run (model, observed)).2.1 = model.removeHidden key

/-- No listener changes the model, except that hidden declarations may be removed before the
project is resolved. -/
def OnlyHides (hooks : Hooks ConvertEvent (ConvertListener Observed)) : Prop :=
  ∀ event, ∀ record ∈ hooks.registrations event,
    Observes record.listener ∨ event = .resolveBegin ∧ Hides record.listener

/-- A conversion has gone on: options and files are as before, and no listener is new. -/
structure Follows (before after : Converter Observed) : Prop where
  options : after.options = before.options
  environment : after.environment = before.environment
  disk : after.disk = before.disk
  hooks : ∀ event,
    (after.hooks.registrations event).Sublist (before.hooks.registrations event)

namespace Follows

variable {before middle after : Converter Observed}

theorem refl (converter : Converter Observed) : Follows converter converter where
  options := rfl
  environment := rfl
  disk := rfl
  hooks _ := List.Sublist.refl _

theorem trans (first : Follows before middle) (second : Follows middle after) :
    Follows before after where
  options := second.options.trans first.options
  environment := second.environment.trans first.environment
  disk := second.disk.trans first.disk
  hooks event := (second.hooks event).trans (first.hooks event)

theorem onlyHides (follows : Follows before after) (onlyHides : OnlyHides before.hooks) :
    OnlyHides after.hooks :=
  fun event record member => onlyHides event record ((follows.hooks event).mem member)

end Follows

variable {before after : Converter Observed}

/-! ## Events -/

theorem notify_returns
    {listener : ConvertListener Observed} {key : Nat} {origin : Option Origin} {answer : Unit}
    (returns : Returns (notify listener key origin) before answer after) :
    Follows before after ∧
      after.model = ((listener key origin).run (before.model, before.observed)).2.1 := by
  have returns := returns_get_bind returns
  rcases outcome : (listener key origin).run (before.model, before.observed) with
    ⟨result, model, observed⟩
  simp only [outcome] at returns
  have returns := returns_set_bind returns
  cases result with
  | error failure =>
      exact absurd returns not_returns_throw
  | ok result =>
      obtain ⟨_, rfl⟩ := returns_pure returns
      exact ⟨⟨rfl, rfl, rfl, fun _ => List.Sublist.refl _⟩, rfl⟩

section Announcing

variable {event : ConvertEvent} {key : Nat} {origin : Option Origin} {answer : Unit}
  {relation : Model → Model → Prop}

theorem notifyAll_returns
    (refl : ∀ model, relation model model)
    (trans : ∀ {first second third}, relation first second → relation second third →
      relation first third)
    {listeners : List (ConvertListener Observed)}
    (each : ∀ listener ∈ listeners, ∀ model observed,
      relation model ((listener key origin).run (model, observed)).2.1)
    (returns : Returns
      (forIn listeners PUnit.unit fun listener _ => do
        notify listener key origin
        pure (ForInStep.yield PUnit.unit)) before answer after) :
    Follows before after ∧ relation before.model after.model := by
  refine returns_forIn
    (fun first second : Converter Observed =>
      Follows first second ∧ relation first.model second.model)
    (fun converter => ⟨Follows.refl converter, refl converter.model⟩)
    (fun first second => ⟨first.1.trans second.1, trans first.2 second.2⟩) ?_ returns
  intro listener member before stepped after stepReturns
  obtain ⟨_, middle, notified, yields⟩ := returns_bind stepReturns
  obtain ⟨_, rfl⟩ := returns_pure yields
  obtain ⟨follows, model⟩ := notify_returns notified
  rw [model]
  exact ⟨follows, each listener member before.model before.observed⟩

/-- Announcing an event changes the model as its listeners do, one after the other. -/
theorem announce_returns (relation : Model → Model → Prop)
    (refl : ∀ model, relation model model)
    (trans : ∀ {first second third}, relation first second → relation second third →
      relation first third)
    (each : ∀ record ∈ before.hooks.registrations event, ∀ model observed,
      relation model ((record.listener key origin).run (model, observed)).2.1)
    (returns : Returns (announce event key origin) before answer after) :
    Follows before after ∧ relation before.model after.model := by
  rw [announce] at returns
  have returns := returns_get_bind returns
  have returns := returns_set_bind returns
  have begun : Follows before { before with hooks := before.hooks.dropOnce event } :=
    ⟨rfl, rfl, rfl, before.hooks.registrations_dropOnce_sublist event⟩
  have all : ∀ listener ∈ before.hooks.snapshot event, ∀ model observed,
      relation model ((listener key origin).run (model, observed)).2.1 := by
    intro listener member
    obtain ⟨record, recordMember, rfl⟩ := List.mem_map.mp member
    exact each record recordMember
  obtain ⟨_, middle, notified, returns⟩ := returns_bind returns
  obtain ⟨_, rfl⟩ := returns_pure returns
  obtain ⟨follows, related⟩ := notifyAll_returns refl trans all notified
  exact ⟨begun.trans follows, related⟩

theorem announce_returns_same
    (onlyHides : OnlyHides before.hooks) (notResolving : event ≠ .resolveBegin)
    (returns : Returns (announce event key origin) before answer after) :
    Follows before after ∧ after.model = before.model := by
  have each : ∀ record ∈ before.hooks.registrations event, ∀ model observed,
      ((record.listener key origin).run (model, observed)).2.1 = model := by
    intro record member model observed
    rcases onlyHides event record member with observes | ⟨resolving, _⟩
    · exact observes key origin model observed
    · exact absurd resolving notResolving
  exact announce_returns (fun first second => second = first) (fun _ => rfl)
    (fun first second => second.trans first) each returns

/-- Before the project is resolved, hidden declarations may be removed, any number of times. -/
theorem announce_returns_hidden
    (onlyHides : OnlyHides before.hooks)
    (returns : Returns (announce event key origin) before answer after) :
    Follows before after ∧
      ∃ times, after.model = (fun model => model.removeHidden key)^[times] before.model := by
  refine announce_returns
    (fun first second =>
      ∃ times, second = (fun model : Model => model.removeHidden key)^[times] first)
    (fun model => ⟨0, rfl⟩) ?_ ?_ returns
  · rintro first _ _ ⟨times, rfl⟩ ⟨more, rfl⟩
    exact ⟨more + times, (Function.iterate_add_apply _ more times first).symm⟩
  · intro record member model observed
    rcases onlyHides event record member with observes | ⟨_, hides⟩
    · exact ⟨0, observes key origin model observed⟩
    · exact ⟨1, hides key origin model observed⟩

end Announcing

/-! ## Declarations -/

theorem attach_returns
    {parent key : Nat} {declaration : Declaration} {origin : Origin}
    (onlyHides : OnlyHides before.hooks)
    (returns : Returns (attach parent declaration origin) before key after) :
    key = before.model.size ∧ Follows before after ∧
      after.model = before.model.attach parent declaration := by
  rw [attach] at returns
  have returns := returns_get_bind returns
  have returns := returns_set_bind returns
  obtain ⟨_, middle, announced, returns⟩ := returns_bind returns
  obtain ⟨rfl, rfl⟩ := returns_pure returns
  have created : Follows before
      { before with
        model := (before.model.create declaration).addChild parent before.model.size } :=
    ⟨rfl, rfl, rfl, fun _ => List.Sublist.refl _⟩
  obtain ⟨follows, same⟩ :=
    announce_returns_same (created.onlyHides onlyHides) (by decide) announced
  exact ⟨rfl, created.trans follows, same⟩

theorem attachEntries_returns
    {parent : Nat} (entries : List Entry) {answer : Unit} {before after : Converter Observed}
    (onlyHides : OnlyHides before.hooks)
    (returns : Returns (attachEntries parent entries) before answer after) :
    Follows before after ∧ after.model = graft before.model parent entries := by
  match entries with
  | [] =>
      rw [attachEntries] at returns
      rw [(returns_pure returns).2, graft]
      exact ⟨Follows.refl before, rfl⟩
  | .failed failure :: entries =>
      rw [attachEntries, attachEntry] at returns
      obtain ⟨_, _, thrown, _⟩ := returns_bind returns
      exact absurd thrown not_returns_throw
  | .declared declaration origin members :: entries =>
      rw [attachEntries, attachEntry] at returns
      obtain ⟨_, inner, entryReturns, entriesReturn⟩ := returns_bind returns
      obtain ⟨key, begun, attached, membersReturn⟩ := returns_bind entryReturns
      obtain ⟨rfl, attachFollows, attachModel⟩ := attach_returns onlyHides attached
      obtain ⟨membersFollow, membersModel⟩ :=
        attachEntries_returns members (attachFollows.onlyHides onlyHides) membersReturn
      have innerFollows := attachFollows.trans membersFollow
      obtain ⟨entriesFollow, entriesModel⟩ :=
        attachEntries_returns entries (innerFollows.onlyHides onlyHides) entriesReturn
      refine ⟨innerFollows.trans entriesFollow, ?_⟩
      rw [entriesModel, membersModel, attachModel, graft_declared]

theorem attachEntries_singleton (parent : Nat) (entry : Entry) :
    (attachEntries parent [entry] : Converting Observed Unit) = attachEntry parent entry := by
  rw [attachEntries, attachEntries]
  exact bind_pure_unit

/-! ## Files -/

/-- The outline of a source; one that cannot be read has none. -/
def outline (platform : Platform) (options : Options) (disk : Disk) (source : SourceInput) :
    List Entry :=
  match readInput platform options disk source with
  | .parsed entry => [entry]
  | _ => []

theorem report_returns
    {level : Level} {message : String} {answer : Unit}
    (returns : Returns (report level message) before answer after) :
    Follows before after ∧ after.model = before.model := by
  rw [returns_modify returns]
  exact ⟨⟨rfl, rfl, rfl, fun _ => List.Sublist.refl _⟩, rfl⟩

theorem convertInput_returns
    {project : Nat} {source : SourceInput} {answer : Unit}
    (onlyHides : OnlyHides before.hooks)
    (returns : Returns (convertInput project source) before answer after) :
    Follows before after ∧
      after.model =
        graft before.model project
          (outline before.environment.platform before.options before.disk source) := by
  rw [convertInput] at returns
  have returns := returns_get_bind returns
  rw [outline]
  cases reading : readInput before.environment.platform before.options before.disk source with
  | parsed entry =>
      rw [reading] at returns
      have single : Returns (attachEntries project [entry]) before answer after := by
        rw [attachEntries_singleton]
        exact returns
      exact attachEntries_returns [entry] onlyHides single
  | rejected message =>
      rw [reading] at returns
      obtain ⟨follows, same⟩ := report_returns returns
      simp only
      rw [same, graft]
      exact ⟨follows, rfl⟩
  | failed failure =>
      rw [reading] at returns
      exact absurd returns not_returns_throw

theorem convertInputs_returns
    {project : Nat} {sources : List SourceInput} {answer : PUnit}
    (onlyHides : OnlyHides before.hooks)
    (returns : Returns
      (forIn sources PUnit.unit fun source _ => do
        convertInput project source
        pure (ForInStep.yield PUnit.unit)) before answer after) :
    Follows before after ∧
      after.model =
        graft before.model project
          (sources.flatMap
            (outline before.environment.platform before.options before.disk)) := by
  induction sources generalizing before with
  | nil =>
      rw [returns_forIn_nil returns, List.flatMap_nil, graft]
      exact ⟨Follows.refl before, rfl⟩
  | cons source sources inductionHypothesis =>
      obtain ⟨middle, first, rest⟩ := returns_forIn_cons returns
      obtain ⟨firstFollows, firstModel⟩ := convertInput_returns onlyHides first
      obtain ⟨restFollows, restModel⟩ :=
        inductionHypothesis (firstFollows.onlyHides onlyHides) rest
      refine ⟨firstFollows.trans restFollows, ?_⟩
      rw [restModel, firstModel, firstFollows.options, firstFollows.environment,
        firstFollows.disk, List.flatMap_cons, graft_append]

theorem readReadme_returns
    {readme : String} (returns : Returns readReadme before readme after) :
    Follows before after ∧ after.model = before.model := by
  rw [readReadme] at returns
  have returns := returns_get_bind returns
  dsimp only at returns
  split at returns
  · rw [(returns_pure returns).2]
    exact ⟨Follows.refl before, rfl⟩
  · split at returns
    · exact absurd returns not_returns_throw
    · split at returns
      · rw [(returns_pure returns).2]
        exact ⟨Follows.refl before, rfl⟩
      · obtain ⟨_, middle, reported, returns⟩ := returns_bind returns
        rw [(returns_pure returns).2]
        exact report_returns reported
      · exact absurd returns not_returns_throw

/-! ## Projects -/

/-- The sources of inputs do not depend on what has been logged. -/
theorem expandFrom_fst
    (environment : Environment) (disk : Disk) (found : Found) (logger other : Logger)
    (inputs : List String) :
    (expandFrom environment disk found logger inputs).1 =
      (expandFrom environment disk found other inputs).1 := by
  induction inputs generalizing found logger other with
  | nil =>
      rfl
  | cons input inputs inductionHypothesis =>
      rw [expandFrom, expandFrom]
      split
      · rfl
      · split
        · rfl
        · exact inductionHypothesis _ logger other
        · exact inductionHypothesis found _ _

theorem findSources_returns
    {inputs : List String} {sources : List SourceInput}
    (returns : Returns (findSources inputs) before sources after) :
    Follows before after ∧ after.model = before.model ∧
      ∀ logger,
        (expandInputs before.environment before.disk logger inputs).1 = .ok sources := by
  rw [findSources] at returns
  have returns := returns_get_bind returns
  rcases expanded : expandInputs before.environment before.disk before.logger inputs with
    ⟨outcome, logger⟩
  simp only [expanded] at returns
  have returns := returns_set_bind returns
  obtain ⟨rfl, rfl⟩ := returns_liftM returns
  refine ⟨⟨rfl, rfl, rfl, fun _ => List.Sublist.refl _⟩, rfl, ?_⟩
  intro other
  have same := expandFrom_fst before.environment before.disk ⟨[], []⟩ other before.logger inputs
  rw [expandInputs, same, ← expandInputs, expanded]

theorem resolveBelow_returns
    {depth key : Nat} {answer : Unit} (onlyHides : OnlyHides before.hooks)
    (returns : Returns (resolveBelow depth key) before answer after) :
    Follows before after ∧ after.model = before.model := by
  induction depth generalizing key before after with
  | zero =>
      rw [resolveBelow] at returns
      rw [(returns_pure returns).2]
      exact ⟨Follows.refl before, rfl⟩
  | succ depth inductionHypothesis =>
      rw [resolveBelow] at returns
      have returns := returns_get_bind returns
      obtain ⟨_, middle, resolved, returns⟩ := returns_bind returns
      obtain ⟨_, rfl⟩ := returns_pure returns
      refine returns_forIn
        (fun first second : Converter Observed =>
          OnlyHides first.hooks → Follows first second ∧ second.model = first.model)
        (fun converter _ => ⟨Follows.refl converter, rfl⟩) ?_ ?_ resolved onlyHides
      · intro first second third firstStep secondStep onlyHides
        obtain ⟨firstFollows, firstModel⟩ := firstStep onlyHides
        obtain ⟨secondFollows, secondModel⟩ := secondStep (firstFollows.onlyHides onlyHides)
        exact ⟨firstFollows.trans secondFollows, secondModel.trans firstModel⟩
      · intro child _ before stepped after stepReturns onlyHides
        obtain ⟨_, inner, announced, stepReturns⟩ := returns_bind stepReturns
        obtain ⟨_, outer, resolvedBelow, yields⟩ := returns_bind stepReturns
        obtain ⟨_, rfl⟩ := returns_pure yields
        obtain ⟨announceFollows, announceModel⟩ :=
          announce_returns_same onlyHides (by decide) announced
        obtain ⟨belowFollows, belowModel⟩ :=
          inductionHypothesis (announceFollows.onlyHides onlyHides) resolvedBelow
        exact ⟨announceFollows.trans belowFollows, belowModel.trans announceModel⟩

/-- The declaration of a project, as options name it. -/
def projectDeclaration (options : Options) : Declaration :=
  Declaration.ofName (options.textOf .name) .project

/-- What a conversion does once its sources are known. -/
def build (project : Nat) (sources : List SourceInput) : Converting Observed Nat := do
  announce .begin project none
  for source in sources do
    convertInput project source
  announce .resolveBegin project none
  let converter ← get
  resolveBelow converter.model.size project
  announce .finish project none
  return project

theorem build_returns
    {project key : Nat} {sources : List SourceInput} (onlyHides : OnlyHides before.hooks)
    (returns : Returns (build project sources) before key after) :
    key = project ∧ ∃ times,
      after.model =
        (fun model => model.removeHidden project)^[times]
          (graft before.model project
            (sources.flatMap
              (outline before.environment.platform before.options before.disk))) := by
  rw [build] at returns
  obtain ⟨_, begun, beginReturns, returns⟩ := returns_bind returns
  obtain ⟨beginFollows, beginModel⟩ := announce_returns_same onlyHides (by decide) beginReturns
  have beginHides := beginFollows.onlyHides onlyHides
  obtain ⟨_, built, sourcesReturn, returns⟩ := returns_bind returns
  obtain ⟨sourcesFollow, sourcesModel⟩ := convertInputs_returns beginHides sourcesReturn
  have builtHides := sourcesFollow.onlyHides beginHides
  obtain ⟨_, hidden, resolveReturns, returns⟩ := returns_bind returns
  obtain ⟨hiddenFollows, times, hiddenModel⟩ := announce_returns_hidden builtHides resolveReturns
  have hiddenHides := hiddenFollows.onlyHides builtHides
  have returns := returns_get_bind returns
  obtain ⟨_, resolved, belowReturns, returns⟩ := returns_bind returns
  obtain ⟨belowFollows, belowModel⟩ := resolveBelow_returns hiddenHides belowReturns
  have resolvedHides := belowFollows.onlyHides hiddenHides
  obtain ⟨_, finished, finishReturns, returns⟩ := returns_bind returns
  obtain ⟨_, finishModel⟩ := announce_returns_same resolvedHides (by decide) finishReturns
  obtain ⟨rfl, rfl⟩ := returns_pure returns
  refine ⟨rfl, times, ?_⟩
  rw [finishModel, belowModel, hiddenModel, sourcesModel, beginModel, beginFollows.options,
    beginFollows.environment, beginFollows.disk]

/-- A conversion builds the outlines of its sources below a new project; then hidden declarations
may be removed. -/
theorem convert_returns
    {inputs : List String} {key : Nat} (onlyHides : OnlyHides before.hooks)
    (returns : Returns (convert inputs) before key after) :
    ∃ readme sources times,
      (∀ logger, (expandInputs before.environment before.disk logger inputs).1 = .ok sources) ∧
        key = before.model.size ∧
        after.model =
          (fun model => model.removeHidden key)^[times]
            (graft (before.model.createProject (projectDeclaration before.options) readme) key
              (sources.flatMap
                (outline before.environment.platform before.options before.disk))) := by
  rw [convert] at returns
  obtain ⟨readme, start, readmeReturns, returns⟩ := returns_bind returns
  obtain ⟨startFollows, startModel⟩ := readReadme_returns readmeReturns
  have returns := returns_get_bind returns
  dsimp only at returns
  have returns := returns_set_bind returns
  obtain ⟨sources, found, sourcesReturn, returns⟩ := returns_bind returns
  obtain ⟨foundFollows, foundModel, expanded⟩ := findSources_returns sourcesReturn
  have foundHides : OnlyHides found.hooks :=
    foundFollows.onlyHides (startFollows.onlyHides onlyHides)
  have built : ∃ begun, Follows found begun ∧ begun.model = found.model ∧
      Returns (build start.model.size sources) begun key after := by
    split at returns
    · obtain ⟨_, reported, reportReturns, returns⟩ := returns_bind returns
      obtain ⟨reportFollows, reportModel⟩ := report_returns reportReturns
      exact ⟨reported, reportFollows, reportModel, returns⟩
    · exact ⟨found, Follows.refl found, rfl, returns⟩
  obtain ⟨begun, begunFollows, begunModel, buildReturns⟩ := built
  obtain ⟨rfl, times, built⟩ := build_returns (begunFollows.onlyHides foundHides) buildReturns
  have follows := foundFollows.trans begunFollows
  rw [begunModel, foundModel, follows.options, follows.environment, follows.disk,
    startFollows.options, startFollows.environment, startFollows.disk, startModel] at built
  rw [startFollows.environment, startFollows.disk] at expanded
  rw [startModel]
  exact ⟨readme, sources, times, expanded, rfl, built⟩

end ApiDocs.Convert
