import ApiDocs.Proofs.Convert.Unattended
import ApiDocs.Proofs.Hooks.DispatchOrder

/-!
# Events of a conversion

Listeners hear of a conversion in a fixed order: that it begins, of each declaration when it has
been created below its parent, that the project is resolved, of each declaration that is left, and
that the conversion ends.  The declarations are created in the order in which the project is walked
afterwards, because the outline of a declaration occupies the identities that follow its own.
-/

namespace ApiDocs.Convert

open ApiDocs.Computation

/-! ## What listeners hear -/

variable {Observed : Type}

/-- An event about a declaration, with the model at that time. -/
structure Emission where
  event : ConvertEvent
  key : Nat
  origin : Option Origin
  model : Model

/-- The listeners of a conversion, and what they have observed. -/
structure Audience (Observed : Type) where
  hooks : Hooks ConvertEvent (ConvertListener Observed)
  observed : Observed

def Converter.audience (converter : Converter Observed) : Audience Observed :=
  { hooks := converter.hooks, observed := converter.observed }

/-- Listeners are told of a declaration, one after the other. -/
def tell (listeners : List (ConvertListener Observed)) (key : Nat) (origin : Option Origin) :
    Computation (Model × Observed) Unit :=
  match listeners with
  | [] => pure ()
  | listener :: listeners => do
    listener key origin
    tell listeners key origin

/-- An audience has heard emissions one after the other and nothing else: each has been told to the
listeners of its event, on the model of that time, and these have not failed. -/
inductive Heard : List Emission → Audience Observed → Audience Observed → Prop where
  | nil (audience : Audience Observed) : Heard [] audience audience
  | cons {emission : Emission} {emissions : List Emission} {before after : Audience Observed}
      {changed : Model} {observed : Observed}
      (told : Returns (tell (before.hooks.snapshot emission.event) emission.key emission.origin)
        (emission.model, before.observed) () (changed, observed))
      (rest : Heard emissions { hooks := before.hooks.dropOnce emission.event, observed } after) :
      Heard (emission :: emissions) before after

namespace Heard

variable {first second : List Emission} {before middle after : Audience Observed}

theorem append (firstHeard : Heard first before middle) (secondHeard : Heard second middle after) :
    Heard (first ++ second) before after := by
  induction firstHeard with
  | nil audience => exact secondHeard
  | cons told _ inductionHypothesis => exact .cons told (inductionHypothesis secondHeard)

end Heard

section Announcing

variable {before after : Converter Observed} {key : Nat} {origin : Option Origin} {answer : Unit}

theorem notify_told {listener : ConvertListener Observed}
    (returns : Returns (notify listener key origin) before answer after) :
    after.hooks = before.hooks ∧
      Returns (listener key origin) (before.model, before.observed) ()
        (after.model, after.observed) := by
  have returns := returns_get_bind returns
  rcases outcome : (listener key origin).run (before.model, before.observed) with
    ⟨result, model, observed⟩
  simp only [outcome] at returns
  have returns := returns_set_bind returns
  cases result with
  | error failure => exact absurd returns not_returns_throw
  | ok result =>
      obtain ⟨_, rfl⟩ := returns_pure returns
      exact ⟨rfl, outcome⟩

theorem notifyAll_told {listeners : List (ConvertListener Observed)} {answer : PUnit}
    (returns : Returns
      (forIn listeners PUnit.unit fun listener _ => do
        notify listener key origin
        pure (ForInStep.yield PUnit.unit)) before answer after) :
    after.hooks = before.hooks ∧
      Returns (tell listeners key origin) (before.model, before.observed) ()
        (after.model, after.observed) := by
  induction listeners generalizing before with
  | nil =>
      rw [returns_forIn_nil returns]
      exact ⟨rfl, rfl⟩
  | cons listener listeners inductionHypothesis =>
      obtain ⟨middle, first, rest⟩ := returns_forIn_cons returns
      obtain ⟨sameHooks, told⟩ := notify_told first
      obtain ⟨restHooks, restTold⟩ := inductionHypothesis rest
      exact ⟨restHooks.trans sameHooks, (run_bind_ok told).trans restTold⟩

theorem announce_heard {event : ConvertEvent}
    (returns : Returns (announce event key origin) before answer after) :
    Heard [{ event, key, origin, model := before.model }] before.audience after.audience := by
  rw [announce] at returns
  have returns := returns_get_bind returns
  have returns := returns_set_bind returns
  obtain ⟨_, middle, notified, returns⟩ := returns_bind returns
  obtain ⟨_, rfl⟩ := returns_pure returns
  obtain ⟨sameHooks, told⟩ := notifyAll_told notified
  have sameAudience : after.audience =
      { hooks := before.hooks.dropOnce event, observed := after.observed } := by
    rw [Converter.audience, sameHooks]
  rw [sameAudience]
  exact .cons told (.nil _)

end Announcing

/-! ## Creation -/

mutual

/-- The emissions while an entry is attached below a parent. -/
def creationsOfEntry (model : Model) (parent : Nat) : Entry → List Emission
  | .failed _ => []
  | .declared declaration origin members =>
    let attached := model.attach parent declaration
    { event := .createDeclaration, key := model.size, origin := some origin, model := attached } ::
      creationsOf attached model.size members

def creationsOf (model : Model) (parent : Nat) : List Entry → List Emission
  | [] => []
  | entry :: entries =>
    creationsOfEntry model parent entry ++
      creationsOf (graftEntry model parent entry) parent entries

end

theorem creationsOf_declared
    (model : Model) (parent : Nat) (declaration : Declaration) (origin : Origin)
    (members entries : List Entry) :
    creationsOf model parent (.declared declaration origin members :: entries) =
      { event := .createDeclaration
        key := model.size
        origin := some origin
        model := model.attach parent declaration } ::
        creationsOf (model.attach parent declaration) model.size members ++
          creationsOf (graft (model.attach parent declaration) model.size members) parent
            entries := by
  rw [creationsOf, creationsOfEntry, graftEntry]

theorem creationsOf_append (model : Model) (parent : Nat) (first second : List Entry) :
    creationsOf model parent (first ++ second) =
      creationsOf model parent first ++ creationsOf (graft model parent first) parent second := by
  induction first generalizing model with
  | nil => rw [List.nil_append, creationsOf, graft, List.nil_append]
  | cons entry entries inductionHypothesis =>
      rw [List.cons_append, creationsOf, creationsOf, graft, inductionHypothesis, List.append_assoc]

mutual

/-- The declarations of an entry with their origins, each before its members. -/
def declaredByEntry : Entry → List (Declaration × Origin)
  | .failed _ => []
  | .declared declaration origin members => (declaration, origin) :: declaredBy members

def declaredBy : List Entry → List (Declaration × Origin)
  | [] => []
  | entry :: entries => declaredByEntry entry ++ declaredBy entries

end

theorem declaredBy_append (first second : List Entry) :
    declaredBy (first ++ second) = declaredBy first ++ declaredBy second := by
  induction first with
  | nil => rw [List.nil_append, declaredBy, List.nil_append]
  | cons entry entries inductionHypothesis =>
      rw [List.cons_append, declaredBy, declaredBy, inductionHypothesis, List.append_assoc]

/-- A source that is rejected declares nothing. -/
theorem declaredBy_sources
    (platform : Platform) (options : Options) (disk : Disk) (sources : List SourceInput) :
    declaredBy (sources.flatMap (outline platform options disk)) =
      sources.flatMap fun source =>
        match readInput platform options disk source with
        | .parsed entry => declaredByEntry entry
        | _ => [] := by
  induction sources with
  | nil => rw [List.flatMap_nil, List.flatMap_nil, declaredBy]
  | cons source sources inductionHypothesis =>
      rw [List.flatMap_cons, List.flatMap_cons, declaredBy_append, inductionHypothesis, outline]
      cases readInput platform options disk source with
      | parsed entry => simp only [declaredBy, List.append_nil]
      | rejected message => simp only [declaredBy]
      | failed failure => simp only [declaredBy]

/-- A declaration has its parent when its creation is announced, stands among the children of the
parent then, and keeps the parent. -/
def Emission.Placed (creation : Emission) (final : Model) : Prop :=
  ∃ parent, creation.model.parent? creation.key = some parent ∧
    creation.key ∈ creation.model.children parent ∧ final.parent? creation.key = some parent

/-- Creations announce new declarations in the order of their identities, which is the order of the
outline. -/
structure Announces (creations : List Emission) (model : Model) (entries : List Entry)
    (final : Model) : Prop where
  events : ∀ creation ∈ creations, creation.event = .createDeclaration
  keys : creations.map Emission.key = List.range' model.size (final.size - model.size)
  declared : creations.map (fun creation =>
    (creation.model.declaration? creation.key, creation.origin)) =
      (declaredBy entries).map fun declared => (some declared.1, some declared.2)
  placed : ∀ creation ∈ creations, creation.Placed final

namespace Announces

variable {first second : List Emission} {model middle final : Model}
  {entries others : List Entry}

theorem nil (model : Model) : Announces [] model [] model where
  events := nofun
  keys := by rw [Nat.sub_self]; rfl
  declared := by rw [declaredBy]; rfl
  placed := nofun

theorem key_lt (announces : Announces first model entries final) (grows : model.size ≤ final.size)
    {creation : Emission} (member : creation ∈ first) : creation.key < final.size := by
  have inRange : creation.key ∈ List.range' model.size (final.size - model.size) := by
    rw [← announces.keys]
    exact List.mem_map_of_mem member
  have bounds := List.mem_range'_1.mp inRange
  omega

theorem append (firstAnnounces : Announces first model entries middle)
    (secondAnnounces : Announces second middle others final)
    (grows : model.size ≤ middle.size) (grown : middle.size ≤ final.size)
    (kept : ∀ key < middle.size, final.parent? key = middle.parent? key) :
    Announces (first ++ second) model (entries ++ others) final where
  events := List.forall_mem_append.mpr ⟨firstAnnounces.events, secondAnnounces.events⟩
  keys := by
    have next : middle.size = model.size + (middle.size - model.size) := by omega
    have whole : final.size - model.size =
        (middle.size - model.size) + (final.size - middle.size) := by omega
    rw [List.map_append, firstAnnounces.keys, secondAnnounces.keys, whole, ← List.range'_append_1,
      ← next]
  declared := by
    rw [List.map_append, firstAnnounces.declared, secondAnnounces.declared, declaredBy_append,
      List.map_append]
  placed := by
    refine List.forall_mem_append.mpr ⟨fun creation member => ?_, secondAnnounces.placed⟩
    obtain ⟨parent, hasParent, isChild, keeps⟩ := firstAnnounces.placed creation member
    exact ⟨parent, hasParent, isChild,
      (kept _ (firstAnnounces.key_lt grows member)).trans keeps⟩

/-- A declaration is announced before its members. -/
theorem declared_cons {parent : Nat} {declaration : Declaration} {members : List Entry}
    (inside : parent < model.size)
    (announces : Announces first (model.attach parent declaration) members final)
    (grows : model.size < final.size)
    (kept : final.parent? model.size = some parent) (origin : Origin) :
    Announces ({ event := .createDeclaration
                 key := model.size
                 origin := some origin
                 model := model.attach parent declaration } :: first)
      model [.declared declaration origin members] final where
  events := List.forall_mem_cons.mpr ⟨rfl, announces.events⟩
  keys := by
    have whole : final.size - model.size = (final.size - (model.size + 1)) + 1 := by omega
    rw [List.map_cons, announces.keys, Model.size_attach, whole, List.range'_succ]
  declared := by
    rw [List.map_cons, announces.declared, Model.declaration?_attach, if_pos rfl, declaredBy,
      declaredByEntry, declaredBy, List.append_nil, List.map_cons]
  placed := by
    refine List.forall_mem_cons.mpr ⟨⟨parent, ?_, ?_, kept⟩, announces.placed⟩
    · rw [Model.parent?_attach, if_pos rfl]
    · rw [Model.children_attach model inside, if_pos rfl]
      exact List.mem_append_right _ (List.mem_singleton_self _)

end Announces

theorem creationsOf_announces (model : Model) {parent : Nat} (inside : parent < model.size)
    (entries : List Entry) :
    Announces (creationsOf model parent entries) model entries (graft model parent entries) := by
  match entries with
  | [] =>
      rw [creationsOf, graft]
      exact Announces.nil model
  | .failed failure :: entries =>
      have rest := creationsOf_announces model inside entries
      rw [creationsOf, creationsOfEntry, List.nil_append, graftEntry, graft_failed]
      refine ⟨rest.events, rest.keys, ?_, rest.placed⟩
      rw [rest.declared, declaredBy, declaredByEntry, List.nil_append]
  | .declared declaration origin members :: entries =>
      have sizeAttach := model.size_attach parent declaration
      have isInside : model.size < (model.attach parent declaration).size := by omega
      have inner := creationsOf_announces (model.attach parent declaration) isInside members
      have sizeInner := size_le_graft isInside members
      have stillInside :
          parent < (graft (model.attach parent declaration) model.size members).size := by omega
      have outer := creationsOf_announces _ stillInside entries
      have sizeOuter := size_le_graft stillInside entries
      have keeps : (graft (model.attach parent declaration) model.size members).parent?
          model.size = some parent := by
        rw [parent?_graft _ isInside isInside, Model.parent?_attach, if_pos rfl]
      rw [creationsOf_declared, graft_declared]
      exact (inner.declared_cons inside (by omega) keeps origin).append outer (by omega) (by omega)
        fun key old => parent?_graft _ old stillInside entries

/-! ## Emissions -/

section Emitting

variable {before after : Converter Observed}

theorem attach_heard
    {parent key : Nat} {declaration : Declaration} {origin : Origin}
    (returns : Returns (attach parent declaration origin) before key after) :
    Heard [{ event := .createDeclaration
             key := before.model.size
             origin := some origin
             model := before.model.attach parent declaration }] before.audience after.audience := by
  rw [attach] at returns
  have returns := returns_get_bind returns
  have returns := returns_set_bind returns
  obtain ⟨_, middle, announced, returns⟩ := returns_bind returns
  obtain ⟨rfl, rfl⟩ := returns_pure returns
  exact announce_heard announced

theorem attachEntries_heard
    {parent : Nat} (entries : List Entry) {answer : Unit} {before after : Converter Observed}
    (onlyHides : OnlyHides before.hooks)
    (returns : Returns (attachEntries parent entries) before answer after) :
    Heard (creationsOf before.model parent entries) before.audience after.audience := by
  match entries with
  | [] =>
      rw [attachEntries] at returns
      rw [(returns_pure returns).2, creationsOf]
      exact .nil _
  | .failed failure :: entries =>
      rw [attachEntries, attachEntry] at returns
      obtain ⟨_, _, thrown, _⟩ := returns_bind returns
      exact absurd thrown not_returns_throw
  | .declared declaration origin members :: entries =>
      rw [attachEntries, attachEntry] at returns
      obtain ⟨_, inner, entryReturns, entriesReturn⟩ := returns_bind returns
      obtain ⟨key, begun, attached, membersReturn⟩ := returns_bind entryReturns
      have attachHeard := attach_heard attached
      obtain ⟨rfl, attachFollows, attachModel⟩ := attach_returns onlyHides attached
      have begunHides := attachFollows.onlyHides onlyHides
      have membersHeard := attachEntries_heard members begunHides membersReturn
      obtain ⟨membersFollow, membersModel⟩ := attachEntries_returns members begunHides membersReturn
      have entriesHeard :=
        attachEntries_heard entries (membersFollow.onlyHides begunHides) entriesReturn
      rw [attachModel] at membersHeard membersModel
      rw [membersModel] at entriesHeard
      rw [creationsOf_declared]
      exact (attachHeard.append membersHeard).append entriesHeard

theorem convertInput_heard
    {project : Nat} {source : SourceInput} {answer : Unit} (onlyHides : OnlyHides before.hooks)
    (returns : Returns (convertInput project source) before answer after) :
    Heard
      (creationsOf before.model project
        (outline before.environment.platform before.options before.disk source))
      before.audience after.audience := by
  rw [convertInput] at returns
  have returns := returns_get_bind returns
  rw [outline]
  cases reading : readInput before.environment.platform before.options before.disk source with
  | parsed entry =>
      rw [reading] at returns
      have single : Returns (attachEntries project [entry]) before answer after := by
        rw [attachEntries_singleton]
        exact returns
      exact attachEntries_heard [entry] onlyHides single
  | rejected message =>
      rw [reading] at returns
      rw [returns_modify returns]
      simp only [creationsOf]
      exact .nil _
  | failed failure =>
      rw [reading] at returns
      exact absurd returns not_returns_throw

theorem convertInputs_heard
    {project : Nat} {sources : List SourceInput} {answer : PUnit}
    (onlyHides : OnlyHides before.hooks)
    (returns : Returns
      (forIn sources PUnit.unit fun source _ => do
        convertInput project source
        pure (ForInStep.yield PUnit.unit)) before answer after) :
    Heard
      (creationsOf before.model project
        (sources.flatMap (outline before.environment.platform before.options before.disk)))
      before.audience after.audience := by
  induction sources generalizing before with
  | nil =>
      rw [returns_forIn_nil returns, List.flatMap_nil, creationsOf]
      exact .nil _
  | cons source sources inductionHypothesis =>
      obtain ⟨middle, first, rest⟩ := returns_forIn_cons returns
      obtain ⟨firstFollows, firstModel⟩ := convertInput_returns onlyHides first
      have restHeard := inductionHypothesis (firstFollows.onlyHides onlyHides) rest
      rw [firstFollows.options, firstFollows.environment, firstFollows.disk,
        firstModel] at restHeard
      rw [List.flatMap_cons, creationsOf_append]
      exact (convertInput_heard onlyHides first).append restHeard

/-- A declaration is resolved. -/
def resolution (model : Model) (key : Nat) : Emission :=
  { event := .resolve, key, origin := none, model }

/-- Declarations beside each other are resolved one after the other, each before those below it. -/
theorem resolveChildren_heard
    {depth : Nat}
    (below : ∀ {key : Nat} {answer : Unit} {before after : Converter Observed},
      OnlyHides before.hooks → Returns (resolveBelow depth key) before answer after →
        Heard ((before.model.descendantsTo depth key).map (resolution before.model))
          before.audience after.audience)
    {children : List Nat} {answer : PUnit} (onlyHides : OnlyHides before.hooks)
    (returns : Returns
      (forIn children PUnit.unit fun child _ => do
        announce .resolve child none
        resolveBelow depth child
        pure (ForInStep.yield PUnit.unit)) before answer after) :
    Heard
      ((children.flatMap fun child => child :: before.model.descendantsTo depth child).map
        (resolution before.model)) before.audience after.audience := by
  induction children generalizing before with
  | nil =>
      rw [List.forIn_nil] at returns
      rw [(returns_pure returns).2]
      exact .nil _
  | cons child children inductionHypothesis =>
      rw [List.forIn_cons] at returns
      obtain ⟨_, next, childReturns, rest⟩ := returns_bind returns
      obtain ⟨_, announced, announceReturns, childReturns⟩ := returns_bind childReturns
      obtain ⟨_, resolved, belowReturns, yields⟩ := returns_bind childReturns
      obtain ⟨rfl, rfl⟩ := returns_pure yields
      obtain ⟨announceFollows, announceModel⟩ :=
        announce_returns_same onlyHides (by decide) announceReturns
      have announcedHides := announceFollows.onlyHides onlyHides
      obtain ⟨belowFollows, belowModel⟩ := resolveBelow_returns announcedHides belowReturns
      have belowHeard := below announcedHides belowReturns
      have restHeard := inductionHypothesis (belowFollows.onlyHides announcedHides) rest
      rw [announceModel] at belowHeard belowModel
      rw [belowModel] at restHeard
      rw [List.flatMap_cons, List.map_append, List.map_cons]
      exact ((announce_heard announceReturns).append belowHeard).append restHeard

/-- The declarations below another one are resolved in the order in which it is walked. -/
theorem resolveBelow_heard
    {depth key : Nat} {answer : Unit} (onlyHides : OnlyHides before.hooks)
    (returns : Returns (resolveBelow depth key) before answer after) :
    Heard ((before.model.descendantsTo depth key).map (resolution before.model))
      before.audience after.audience := by
  induction depth generalizing key before after with
  | zero =>
      rw [resolveBelow] at returns
      rw [(returns_pure returns).2, Model.descendantsTo, List.map_nil]
      exact .nil _
  | succ depth inductionHypothesis =>
      rw [resolveBelow] at returns
      have returns := returns_get_bind returns
      obtain ⟨_, middle, resolved, returns⟩ := returns_bind returns
      obtain ⟨_, rfl⟩ := returns_pure returns
      rw [Model.descendantsTo]
      exact resolveChildren_heard inductionHypothesis onlyHides resolved

/-- The emissions of a conversion: it begins, the declarations are created, the project is about
to be resolved, the declarations that are left are resolved, and it ends. -/
def emissions (project : Nat) (begun built resolved : Model) (creations : List Emission) :
    List Emission :=
  [{ event := .begin, key := project, origin := none, model := begun }] ++ creations ++
    [{ event := .resolveBegin, key := project, origin := none, model := built }] ++
      (resolved.descendants project).map (resolution resolved) ++
        [{ event := .finish, key := project, origin := none, model := resolved }]

theorem build_heard
    {project key : Nat} {sources : List SourceInput} (onlyHides : OnlyHides before.hooks)
    (returns : Returns (build project sources) before key after) :
    let outlines := sources.flatMap (outline before.environment.platform before.options before.disk)
    ∃ times,
      let built := graft before.model project outlines
      let resolved := (fun model => model.removeHidden project)^[times] built
      after.model = resolved ∧
        Heard (emissions project before.model built resolved
          (creationsOf before.model project outlines)) before.audience after.audience := by
  intro outlines
  rw [build] at returns
  obtain ⟨_, begun, beginReturns, returns⟩ := returns_bind returns
  obtain ⟨beginFollows, beginModel⟩ := announce_returns_same onlyHides (by decide) beginReturns
  have beginHides := beginFollows.onlyHides onlyHides
  obtain ⟨_, built, sourcesReturn, returns⟩ := returns_bind returns
  obtain ⟨sourcesFollow, sourcesModel⟩ := convertInputs_returns beginHides sourcesReturn
  have sourcesHeard := convertInputs_heard beginHides sourcesReturn
  rw [beginModel, beginFollows.options, beginFollows.environment,
    beginFollows.disk] at sourcesModel sourcesHeard
  have builtHides := sourcesFollow.onlyHides beginHides
  obtain ⟨_, hidden, resolveReturns, returns⟩ := returns_bind returns
  obtain ⟨hiddenFollows, times, hiddenModel⟩ := announce_returns_hidden builtHides resolveReturns
  have hiddenHides := hiddenFollows.onlyHides builtHides
  have returns := returns_get_bind returns
  obtain ⟨_, resolved, belowReturns, returns⟩ := returns_bind returns
  obtain ⟨belowFollows, belowModel⟩ := resolveBelow_returns hiddenHides belowReturns
  have belowHeard := resolveBelow_heard hiddenHides belowReturns
  obtain ⟨_, finished, finishReturns, returns⟩ := returns_bind returns
  obtain ⟨_, finishModel⟩ :=
    announce_returns_same (belowFollows.onlyHides hiddenHides) (by decide) finishReturns
  obtain ⟨rfl, rfl⟩ := returns_pure returns
  have resolveHeard := announce_heard resolveReturns
  have finishHeard := announce_heard finishReturns
  refine ⟨times, ?_, ?_⟩
  · rw [finishModel, belowModel, hiddenModel, sourcesModel]
  · rw [sourcesModel] at resolveHeard hiddenModel
    rw [belowModel, hiddenModel] at finishHeard
    rw [hiddenModel] at belowHeard
    exact ((((announce_heard beginReturns).append sourcesHeard).append resolveHeard).append
      belowHeard).append finishHeard

end Emitting

/-! ## Conversions -/

variable {converter after : Converter Observed}

/-- Before a project is built nothing is announced. -/
theorem convert_builds {inputs : List String} {key : Nat}
    (returns : Returns (convert inputs) converter key after) :
    ∃ readme sources logger,
      (expandInputs converter.environment converter.disk converter.logger inputs).1 = .ok sources ∧
        Returns (build converter.model.size sources)
          { converter with
            logger
            model := converter.model.createProject (projectDeclaration converter.options) readme }
          key after := by
  rw [convert] at returns
  obtain ⟨readme, start, readmeReturns, returns⟩ := returns_bind returns
  rw [Returns, readReadme_run] at readmeReturns
  cases read : readmeOf converter.options converter.disk with
  | error failure =>
      rw [read] at readmeReturns
      cases readmeReturns
  | ok readmeNotes =>
      rw [read] at readmeReturns
      cases readmeReturns
      have returns := returns_get_bind returns
      dsimp only at returns
      have returns := returns_set_bind returns
      obtain ⟨sources, found, sourcesReturn, returns⟩ := returns_bind returns
      obtain ⟨_, _, expanded⟩ := findSources_returns sourcesReturn
      have foundRun := findSources_run (expanded _)
      have isFound := congrArg Prod.snd (sourcesReturn.symm.trans foundRun)
      dsimp only at isFound
      rw [isFound] at returns
      split at returns
      · obtain ⟨_, reported, reportReturns, returns⟩ := returns_bind returns
        cases reportReturns
        exact ⟨readmeNotes.1, sources, _, expanded converter.logger, returns⟩
      · exact ⟨readmeNotes.1, sources, _, expanded converter.logger, returns⟩

/-- What listeners hear of a conversion that returns, where none changes the model but those that
hide declarations.  Between the beginning and the end, each declaration is announced when it has
been created below its parent, in the order in which the project is walked before it is resolved;
then the project, and then each declaration that is left, once and in the order of the walk.  A
source that is rejected adds nothing. -/
theorem conversion_announces
    {inputs : List String} {key : Nat} (onlyHides : OnlyHides converter.hooks)
    (converted : (convert inputs).run converter = (.ok key, after)) :
    ∃ readme sources times,
      (expandInputs converter.environment converter.disk converter.logger inputs).1 = .ok sources ∧
        key = converter.model.size ∧
        let outlines := sources.flatMap
          (outline converter.environment.platform converter.options converter.disk)
        let begun :=
          converter.model.createProject (projectDeclaration converter.options) readme
        let built :=
          planted converter.model (projectDeclaration converter.options) readme outlines
        let resolved := (fun model => model.removeHidden key)^[times] built
        let creations := creationsOf begun key outlines
        after.model = resolved ∧
          Heard (emissions key begun built resolved creations) converter.audience after.audience ∧
          -- the declarations that are created are those of the walk before the project is resolved
          (∀ creation ∈ creations, creation.event = .createDeclaration) ∧
          creations.map Emission.key = built.descendants key ∧
          (∀ creation ∈ creations, creation.Placed built) ∧
          (creations.map fun creation =>
              (creation.model.declaration? creation.key, creation.origin)) =
            (sources.flatMap fun source =>
              match readInput converter.environment.platform converter.options converter.disk
                source with
              | .parsed entry => declaredByEntry entry
              | _ => []).map (fun declared => (some declared.1, some declared.2)) ∧
          -- those that are resolved are what can still be reached, each once
          (resolved.descendants key).Nodup ∧
          (resolved.descendants key).Sublist (built.descendants key) ∧
          ∀ parent ∈ key :: resolved.descendants key, ∀ child ∈ resolved.children parent,
            child ∈ resolved.descendants key := by
  obtain ⟨readme, sources, logger, expanded, builds⟩ := convert_builds converted
  let start : Converter Observed :=
    { converter with
      logger
      model := converter.model.createProject (projectDeclaration converter.options) readme }
  have startHides : OnlyHides start.hooks := onlyHides
  obtain ⟨rfl, _⟩ := build_returns startHides builds
  obtain ⟨times, isResolved, heard⟩ := build_heard startHides builds
  have isInside : converter.model.size < start.model.size := by
    rw [Model.size_createProject]
    exact Nat.lt_succ_self _
  set outlines := sources.flatMap
    (outline converter.environment.platform converter.options converter.disk) with isOutlines
  have announces := creationsOf_announces start.model isInside outlines
  have numbered :=
    planted_descendants converter.model (projectDeclaration converter.options) readme outlines
  have ascending :=
    planted_ascending converter.model (projectDeclaration converter.options) readme outlines
  have shrinks := Model.removeHidden_iterate_shrinks
    (planted converter.model (projectDeclaration converter.options) readme outlines)
    converter.model.size times
  refine ⟨readme, sources, times, expanded, rfl, isResolved, heard, announces.events, ?_,
    announces.placed, ?_, descendants_nodup shrinks numbered, shrinks.descendants _, ?_⟩
  · have keys := announces.keys
    rw [Model.size_createProject] at keys
    exact keys.trans numbered.symm
  · rw [announces.declared, isOutlines, declaredBy_sources]
  · intro parent parentMember child member
    exact Model.mem_descendantsTo_of_ascending (shrinks.ascending ascending) (Nat.le_refl _)
      (Nat.le_add_left _ _) parentMember member

theorem OnlyHides.on {hooks : Hooks ConvertEvent (ConvertListener Observed)}
    (onlyHides : OnlyHides hooks) {listener : ConvertListener Observed}
    (observes : Observes listener) (event : ConvertEvent) (order : Int) :
    OnlyHides (hooks.on event listener order) := by
  intro other record member
  rcases Hooks.mem_registrations_on member with ⟨_, isListener⟩ | old
  · rw [isListener]
    exact Or.inl observes
  · exact onlyHides other record old

/-- A listener that writes down which event it is told of, and the declaration. -/
def recorder (event : ConvertEvent) : ConvertListener (List (ConvertEvent × Nat)) :=
  fun key _ => modify fun (model, observed) => (model, observed ++ [(event, key)])

/-- A converter that hides declarations and whose events are all written down. -/
def recordingConverter : Converter (List (ConvertEvent × Nat)) :=
  { logger := classConverter.logger
    options := classConverter.options
    environment := classConverter.environment
    disk := classConverter.disk
    hooks := ConvertEvent.all.foldl (fun hooks event => hooks.on event (recorder event) 0)
      ((Plugin.hidden : Plugin (List (ConvertEvent × Nat))).load.run .empty).2.convert
    model := .empty
    observed := [] }

theorem recordingConverter_onlyHides : OnlyHides recordingConverter.hooks := by
  have recorded (events : List ConvertEvent)
      {hooks : Hooks ConvertEvent (ConvertListener (List (ConvertEvent × Nat)))}
      (onlyHides : OnlyHides hooks) :
      OnlyHides (events.foldl (fun hooks event => hooks.on event (recorder event) 0) hooks) := by
    induction events generalizing hooks with
    | nil => exact onlyHides
    | cons event events inductionHypothesis =>
        exact inductionHypothesis (onlyHides.on (fun _ _ _ _ => rfl) event 0)
  exact recorded ConvertEvent.all hiddenPlugin_onlyHides

/-- A class with a method and one that is hidden: four declarations are created and three are
resolved. -/
theorem conversion_announces_class :
    OnlyHides recordingConverter.hooks ∧
      ∃ after begun built creations,
        (convert ["shapes.py"]).run recordingConverter = (.ok 0, after) ∧
          after.observed =
            [(.begin, 0), (.createDeclaration, 1), (.createDeclaration, 2), (.createDeclaration, 3),
              (.createDeclaration, 4), (.resolveBegin, 0), (.resolve, 1), (.resolve, 2),
              (.resolve, 3), (.finish, 0)] ∧
            Heard (emissions 0 begun built after.model creations) recordingConverter.audience
                after.audience ∧
              creations.map Emission.key = built.descendants 0 ∧
                after.model.descendants 0 = [1, 2, 3] := by
  have answers : ((convert ["shapes.py"]).run recordingConverter).1.toOption = some 0 := by
    decide +kernel
  have converted : (convert ["shapes.py"]).run recordingConverter =
      (.ok 0, ((convert ["shapes.py"]).run recordingConverter).2) :=
    Prod.ext (eq_ok_of_toOption answers) rfl
  obtain ⟨_, _, _, _, _, isResolved, heard, _, keys, _⟩ :=
    conversion_announces recordingConverter_onlyHides converted
  rw [← isResolved] at heard
  exact ⟨recordingConverter_onlyHides, _, _, _, _, converted, by decide +kernel, heard, keys,
    by decide +kernel⟩

end ApiDocs.Convert
