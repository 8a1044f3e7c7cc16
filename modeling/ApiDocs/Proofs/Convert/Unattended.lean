import ApiDocs.Proofs.Convert.Project
import ApiDocs.Proofs.Log.Messages

/-!
# Conversions without listeners

Where nobody listens, a conversion is a function of its inputs, the options and the files.  It
returns a project unless its readme, its inputs or one of its sources ends it, and then it has only
reported what is wrong and grafted the outlines of the sources below a new project.
-/

namespace ApiDocs.Convert

open ApiDocs.Computation

variable {Observed : Type}

/-- Nobody listens to any event. -/
def NoListeners (hooks : Hooks ConvertEvent (ConvertListener Observed)) : Prop :=
  ∀ event, hooks.registrations event = []

variable {converter : Converter Observed}

/-! ## Events -/

theorem announce_run
    (noListeners : NoListeners converter.hooks)
    (event : ConvertEvent) (key : Nat) (origin : Option Origin) :
    (announce event key origin).run converter = (.ok (), converter) := by
  have kept : ∀ record ∈ converter.hooks.registrations event, record.once = false := by
    intro record member
    rw [noListeners event] at member
    cases member
  have nobody : converter.hooks.snapshot event = [] := by
    rw [Hooks.snapshot, noListeners event, List.map_nil]
  have begun : { converter with hooks := converter.hooks.dropOnce event } = converter := by
    rw [Hooks.dropOnce_eq kept]
  rw [announce, run_bind_ok (run_get converter), run_set_bind, begun, nobody]
  rfl

theorem attach_run
    (noListeners : NoListeners converter.hooks)
    (parent : Nat) (declaration : Declaration) (origin : Origin) :
    (attach parent declaration origin).run converter =
      (.ok converter.model.size,
        { converter with model := converter.model.attach parent declaration }) := by
  have announced : (announce .createDeclaration converter.model.size (some origin)).run
      { converter with model := converter.model.attach parent declaration } = (.ok (), _) :=
    announce_run (by exact noListeners) _ _ _
  rw [attach, run_bind_ok (run_get converter), run_set_bind]
  exact run_bind_ok announced

/-! ## Outlines -/

mutual

/-- The first failure in an outline, in the order in which its declarations are attached. -/
def Entry.failure? : Entry → Option Failure
  | .failed failure => some failure
  | .declared _ _ members => firstFailure? members

def firstFailure? : List Entry → Option Failure
  | [] => none
  | entry :: entries => entry.failure?.or (firstFailure? entries)

end

theorem firstFailure?_cons {entry : Entry} {entries : List Entry} :
    firstFailure? (entry :: entries) = none ↔
      entry.failure? = none ∧ firstFailure? entries = none := by
  rw [firstFailure?, Option.or_eq_none_iff]

theorem firstFailure?_singleton {entry : Entry} :
    firstFailure? [entry] = none ↔ entry.failure? = none := by
  rw [firstFailure?_cons, firstFailure?, and_iff_left rfl]

theorem firstFailure?_append {first second : List Entry} :
    firstFailure? (first ++ second) = none ↔
      firstFailure? first = none ∧ firstFailure? second = none := by
  induction first with
  | nil => simp [firstFailure?]
  | cons entry entries inductionHypothesis =>
      rw [List.cons_append, firstFailure?_cons, firstFailure?_cons, inductionHypothesis, and_assoc]

theorem attachEntries_run
    (entries : List Entry) (converter : Converter Observed)
    (noListeners : NoListeners converter.hooks)
    (parent : Nat)
    (sound : firstFailure? entries = none) :
    (attachEntries parent entries).run converter =
      (.ok (), { converter with model := graft converter.model parent entries }) := by
  match entries with
  | [] =>
      rw [attachEntries, graft]
      rfl
  | .failed failure :: entries =>
      cases (firstFailure?_cons.mp sound).1
  | .declared declaration origin members :: entries =>
      obtain ⟨membersSound, entriesSound⟩ := firstFailure?_cons.mp sound
      rw [Entry.failure?] at membersSound
      have attached := attach_run noListeners parent declaration origin
      -- the members are attached below the new declaration, then the other entries beside it
      have membersRun := attachEntries_run members
        { converter with model := converter.model.attach parent declaration } noListeners
        converter.model.size membersSound
      have entriesRun := attachEntries_run entries
        { converter with
          model := graft (converter.model.attach parent declaration) converter.model.size members }
        noListeners parent entriesSound
      have entryRun : (attachEntry parent (.declared declaration origin members)).run converter =
          (.ok (), { converter with
            model := graft (converter.model.attach parent declaration) converter.model.size
              members }) := by
        rw [attachEntry, run_bind_ok attached]
        exact membersRun
      rw [attachEntries, graft_declared, run_bind_ok entryRun]
      exact entriesRun

/-- Outlines that have been attached hold no failure. -/
theorem firstFailure?_of_returns
    (entries : List Entry) {parent : Nat} {answer : Unit} {before after : Converter Observed}
    (returns : Returns (attachEntries parent entries) before answer after) :
    firstFailure? entries = none := by
  match entries with
  | [] => rw [firstFailure?]
  | .failed failure :: entries =>
      rw [attachEntries, attachEntry] at returns
      obtain ⟨_, _, thrown, _⟩ := returns_bind returns
      exact absurd thrown not_returns_throw
  | .declared declaration origin members :: entries =>
      rw [attachEntries, attachEntry] at returns
      obtain ⟨_, _, entryReturns, entriesReturn⟩ := returns_bind returns
      obtain ⟨_, _, _, membersReturn⟩ := returns_bind entryReturns
      rw [firstFailure?_cons, Entry.failure?]
      exact ⟨firstFailure?_of_returns members membersReturn,
        firstFailure?_of_returns entries entriesReturn⟩

/-! ## Sources -/

namespace Reading

/-- The failure that a source ends a conversion with, if it does. -/
def failure? : Reading → Option Failure
  | parsed entry => entry.failure?
  | rejected _ => none
  | failed failure => some failure

/-- What is reported about a source. -/
def messages : Reading → List (Level × String)
  | rejected message => [(.error, message)]
  | _ => []

end Reading

/-- What is reported about sources, in their order. -/
def sourceMessages (platform : Platform) (options : Options) (disk : Disk)
    (sources : List SourceInput) : List (Level × String) :=
  sources.flatMap fun source => (readInput platform options disk source).messages

/-- A converter after sources: what is wrong with them has been reported, and their outlines have
been grafted below the project. -/
def withSources (converter : Converter Observed) (project : Nat) (sources : List SourceInput) :
    Converter Observed :=
  { converter with
    logger := converter.logger.logAll
      (sourceMessages converter.environment.platform converter.options converter.disk sources)
    model := graft converter.model project
      (sources.flatMap (outline converter.environment.platform converter.options converter.disk)) }

theorem withSources_cons (project : Nat) (source : SourceInput) (sources : List SourceInput) :
    withSources (withSources converter project [source]) project sources =
      withSources converter project (source :: sources) := by
  simp only [withSources, sourceMessages, List.flatMap_cons, List.flatMap_nil, List.append_nil,
    Logger.logAll_append, graft_append]

theorem convertInput_run
    (noListeners : NoListeners converter.hooks)
    (project : Nat) {source : SourceInput}
    (sound :
      (readInput converter.environment.platform converter.options converter.disk source).failure? =
        none) :
    (convertInput project source).run converter =
      (.ok (), withSources converter project [source]) := by
  rw [convertInput, run_bind_ok (run_get converter), withSources, sourceMessages,
    List.flatMap_singleton, List.flatMap_singleton, outline]
  cases reading :
      readInput converter.environment.platform converter.options converter.disk source with
  | failed failure =>
      rw [reading] at sound
      cases sound
  | rejected message =>
      simp only [graft]
      rfl
  | parsed entry =>
      rw [reading] at sound
      have attached := attachEntries_run [entry] converter noListeners project
        (firstFailure?_singleton.mpr sound)
      rw [attachEntries_singleton] at attached
      exact attached

/-- A source that has been converted does not end the conversion. -/
theorem failure?_of_convertInput
    {project : Nat} {source : SourceInput} {answer : Unit} {after : Converter Observed}
    (returns : Returns (convertInput project source) converter answer after) :
    (readInput converter.environment.platform converter.options converter.disk source).failure? =
      none := by
  rw [convertInput] at returns
  have returns := returns_get_bind returns
  cases reading :
      readInput converter.environment.platform converter.options converter.disk source with
  | failed failure =>
      rw [reading] at returns
      exact absurd returns not_returns_throw
  | rejected message => rfl
  | parsed entry =>
      rw [reading] at returns
      have single : Returns (attachEntries project [entry]) converter answer after := by
        rw [attachEntries_singleton]
        exact returns
      exact firstFailure?_singleton.mp (firstFailure?_of_returns [entry] single)

theorem convertInputs_run
    (noListeners : NoListeners converter.hooks)
    (project : Nat) {sources : List SourceInput}
    (sound : ∀ source ∈ sources,
      (readInput converter.environment.platform converter.options converter.disk source).failure? =
        none) :
    (forIn sources PUnit.unit fun source _ => do
        convertInput project source
        pure (ForInStep.yield PUnit.unit) : Converting Observed PUnit).run converter =
      (.ok PUnit.unit, withSources converter project sources) := by
  induction sources generalizing converter with
  | nil =>
      rw [withSources, List.flatMap_nil, graft]
      rfl
  | cons source sources inductionHypothesis =>
      have sourceRun := convertInput_run noListeners project (sound source List.mem_cons_self)
      have stepRun : (convertInput project source >>= fun _ =>
          pure (ForInStep.yield PUnit.unit) : Converting Observed (ForInStep PUnit)).run converter =
          (.ok (ForInStep.yield PUnit.unit), withSources converter project [source]) :=
        run_bind_ok sourceRun
      have stillNobody : NoListeners (withSources converter project [source]).hooks := noListeners
      have rest := inductionHypothesis stillNobody fun other member =>
        sound other (List.mem_cons_of_mem source member)
      rw [withSources_cons] at rest
      rw [List.forIn_cons, run_bind_ok stepRun]
      exact rest

/-- Sources that have been converted do not end the conversion. -/
theorem failure?_of_convertInputs
    (noListeners : NoListeners converter.hooks)
    {project : Nat} {sources : List SourceInput} {answer : PUnit} {after : Converter Observed}
    (returns : Returns
      (forIn sources PUnit.unit fun source _ => do
        convertInput project source
        pure (ForInStep.yield PUnit.unit)) converter answer after) :
    ∀ source ∈ sources,
      (readInput converter.environment.platform converter.options converter.disk source).failure? =
      none := by
  induction sources generalizing converter with
  | nil => exact List.forall_mem_nil _
  | cons source sources inductionHypothesis =>
      obtain ⟨middle, first, rest⟩ := returns_forIn_cons returns
      have sound := failure?_of_convertInput first
      have isMiddle : middle = withSources converter project [source] :=
        congrArg Prod.snd (first.symm.trans (convertInput_run noListeners project sound))
      rw [isMiddle] at rest
      exact List.forall_mem_cons.mpr
        ⟨sound, @inductionHypothesis (withSources converter project [source]) noListeners rest⟩

/-! ## Inputs -/

/-- An input that is neither a source nor a directory. -/
def isRejected (environment : Environment) (disk : Disk) (input : String) : Bool :=
  match environment.expandHome? (Path.ofString input) with
  | none => false
  | some path =>
    match candidates? disk path with
    | .ok none => true
    | _ => false

/-- What is reported about inputs, in their order. -/
def inputMessages (environment : Environment) (disk : Disk) (inputs : List String) :
    List (Level × String) :=
  (inputs.filter (isRejected environment disk)).map fun input =>
    (.error, s!"Input file {input} is not a Python file or directory.")

theorem expandFrom_snd
    {environment : Environment} {disk : Disk} {found : Found} {logger : Logger}
    {inputs : List String} {sources : List SourceInput}
    (expanded : (expandFrom environment disk found logger inputs).1 = .ok sources) :
    (expandFrom environment disk found logger inputs).2 =
      logger.logAll (inputMessages environment disk inputs) := by
  induction inputs generalizing found logger with
  | nil => rfl
  | cons input inputs inductionHypothesis =>
      rw [expandFrom] at expanded ⊢
      rw [inputMessages]
      cases home : environment.expandHome? (Path.ofString input) with
      | none =>
          simp only [home] at expanded
          cases expanded
      | some path =>
          simp only [home] at expanded ⊢
          have decided : isRejected environment disk input =
              match candidates? disk path with
              | .ok none => true
              | _ => false := by
            simp only [isRejected, home]
          cases isSource : candidates? disk path with
          | error fault =>
              rw [isSource] at expanded
              cases expanded
          | ok candidates =>
              rw [isSource] at expanded decided
              cases candidates with
              | none =>
                  rw [List.filter_cons_of_pos decided, List.map_cons]
                  exact inductionHypothesis expanded
              | some candidates =>
                  have isSource : ¬ isRejected environment disk input = true := by
                    rw [decided]
                    exact Bool.false_ne_true
                  rw [List.filter_cons_of_neg isSource]
                  exact inductionHypothesis expanded

theorem findSources_run
    {inputs : List String} {sources : List SourceInput}
    (expanded : (expandInputs converter.environment converter.disk converter.logger inputs).1 =
      .ok sources) :
    (findSources inputs).run converter =
      (.ok sources,
        { converter with
          logger := converter.logger.logAll
            (inputMessages converter.environment converter.disk inputs) }) := by
  have logged : (expandInputs converter.environment converter.disk converter.logger inputs).2 =
      converter.logger.logAll (inputMessages converter.environment converter.disk inputs) :=
    expandFrom_snd expanded
  rw [findSources, run_bind_ok (run_get converter), run_set_bind, run_liftM, expanded, logged]

/-! ## The readme -/

/-- The readme that options name, with what is reported about it. -/
def readmeOf (options : Options) (disk : Disk) :
    Except Failure (String × List (Level × String)) :=
  let readme := options.textOf .readme
  if readme = "" then .ok ("", [])
  else if readme.toList.contains '\x00' then .error .nullInName
  else
    match readText disk (Path.ofString readme) with
    | .ok text => .ok (String.ofList text, [])
    | .error (.file fault) =>
      .ok ("", [(.warn, s!"Could not read readme {readme}: {fault.message}")])
    | .error failure => .error failure

theorem readReadme_run (converter : Converter Observed) :
    readReadme.run converter =
      match readmeOf converter.options converter.disk with
      | .ok (readme, notes) =>
        (.ok readme, { converter with logger := converter.logger.logAll notes })
      | .error failure => (.error failure, converter) := by
  rw [readReadme, run_bind_ok (run_get converter), readmeOf]
  dsimp only
  split
  · rfl
  · split
    · rfl
    · cases readText converter.disk (Path.ofString (converter.options.textOf .readme)) with
      | ok text => rfl
      | error failure => cases failure <;> rfl

/-! ## Projects -/

theorem resolveBelow_run (noListeners : NoListeners converter.hooks) (depth key : Nat) :
    (resolveBelow depth key).run converter = (.ok (), converter) := by
  induction depth generalizing key with
  | zero => rfl
  | succ depth inductionHypothesis =>
      rw [resolveBelow, run_bind_ok (run_get converter)]
      -- at each child nobody is told and nothing changes, so the loop goes on as it began
      induction converter.model.children key with
      | nil => rfl
      | cons child children childrenHypothesis =>
          have childRun : (do
              announce .resolve child none
              resolveBelow depth child
              pure (ForInStep.yield PUnit.unit) : Converting Observed (ForInStep PUnit)).run
                converter = (.ok (ForInStep.yield PUnit.unit), converter) := by
            rw [run_bind_ok (announce_run noListeners _ child none),
              run_bind_ok (inductionHypothesis child)]
            rfl
          rw [List.forIn_cons, bind_assoc, run_bind_ok childRun]
          exact childrenHypothesis

theorem build_run
    (noListeners : NoListeners converter.hooks)
    (project : Nat) {sources : List SourceInput}
    (sound : ∀ source ∈ sources,
      (readInput converter.environment.platform converter.options converter.disk source).failure? =
        none) :
    (build project sources).run converter = (.ok project, withSources converter project sources) := by
  have converted := convertInputs_run noListeners project sound
  have stillNobody : NoListeners (withSources converter project sources).hooks := noListeners
  rw [build, run_bind_ok (announce_run noListeners _ _ _), run_bind_ok converted,
    run_bind_ok (announce_run stillNobody _ _ _), run_bind_ok (run_get _),
    run_bind_ok (resolveBelow_run stillNobody _ _), run_bind_ok (announce_run stillNobody _ _ _)]
  rfl

/-- What is reported where nothing has been found. -/
def emptyMessages (sources : List SourceInput) : List (Level × String) :=
  if sources.isEmpty then [(.error, "No Python source files found in the given inputs.")] else []

/-- The messages of a conversion, in their order. -/
def conversionMessages (converter : Converter Observed) (inputs : List String)
    (sources : List SourceInput) (notes : List (Level × String)) : List (Level × String) :=
  notes ++ inputMessages converter.environment converter.disk inputs ++ emptyMessages sources ++
    sourceMessages converter.environment.platform converter.options converter.disk sources

/-- What a conversion of sources comes to. -/
def converted (converter : Converter Observed) (inputs : List String)
    (sources : List SourceInput) (readme : String) (notes : List (Level × String)) :
    Converter Observed :=
  { converter with
    logger := converter.logger.logAll (conversionMessages converter inputs sources notes)
    model := planted converter.model (projectDeclaration converter.options) readme
      (sources.flatMap (outline converter.environment.platform converter.options converter.disk)) }

/-- Nothing ends a conversion: its readme is read or reported, its inputs expand to sources, and
each of these is read or reported. -/
structure Proceeds (converter : Converter Observed) (inputs : List String)
    (sources : List SourceInput) (readme : String) (notes : List (Level × String)) : Prop where
  readme : readmeOf converter.options converter.disk = .ok (readme, notes)
  inputs : (expandInputs converter.environment converter.disk converter.logger inputs).1 =
    .ok sources
  sources : ∀ source ∈ sources,
    (readInput converter.environment.platform converter.options converter.disk
      source).failure? = none

/-- Without listeners, a conversion that nothing ends returns the project. -/
theorem convert_run
    (noListeners : NoListeners converter.hooks)
    {inputs : List String} {sources : List SourceInput} {readme : String}
    {notes : List (Level × String)}
    (proceeds : Proceeds converter inputs sources readme notes) :
    (convert inputs).run converter =
      (.ok converter.model.size, converted converter inputs sources readme notes) := by
  have readmeRun := readReadme_run converter
  rw [proceeds.readme] at readmeRun
  let created : Converter Observed :=
    { converter with
      logger := converter.logger.logAll notes
      model := converter.model.createProject
        (Declaration.ofName (converter.options.textOf .name) .project) readme }
  have expanded : (expandInputs created.environment created.disk created.logger inputs).1 =
      .ok sources :=
    (expandFrom_fst converter.environment converter.disk _ created.logger converter.logger
      inputs).trans proceeds.inputs
  have found := findSources_run expanded
  rw [convert, run_bind_ok readmeRun, run_bind_ok (run_get _)]
  dsimp only
  rw [run_set_bind, run_bind_ok found]
  -- the two ways on differ only in whether the lack of sources has been reported
  let started (empty : List (Level × String)) : Converter Observed :=
    { created with
      logger := (created.logger.logAll (inputMessages created.environment created.disk inputs)).logAll
        empty }
  have built (empty : List (Level × String)) :
      (build converter.model.size sources).run (started empty) =
        (.ok converter.model.size, withSources (started empty) converter.model.size sources) :=
    build_run (by exact noListeners) converter.model.size proceeds.sources
  have ends : withSources (started (emptyMessages sources)) converter.model.size sources =
      converted converter inputs sources readme notes := by
    simp only [started, created, withSources, converted, conversionMessages, planted,
      projectDeclaration, Logger.logAll_append]
  rw [← ends, emptyMessages]
  split
  · exact built [(.error, "No Python source files found in the given inputs.")]
  · exact built []

/-- Without listeners, a conversion that returned was not ended by anything. -/
theorem proceeds_of_returns
    (noListeners : NoListeners converter.hooks)
    {inputs : List String} {key : Nat} {after : Converter Observed}
    (returns : Returns (convert inputs) converter key after) :
    ∃ sources readme notes, Proceeds converter inputs sources readme notes := by
  rw [convert] at returns
  obtain ⟨readme, start, readmeReturns, returns⟩ := returns_bind returns
  rw [Returns, readReadme_run] at readmeReturns
  cases read : readmeOf converter.options converter.disk with
  | error failure =>
      rw [read] at readmeReturns
      cases readmeReturns
  | ok readmeNotes =>
      obtain ⟨text, notes⟩ := readmeNotes
      rw [read] at readmeReturns
      cases readmeReturns
      have returns := returns_get_bind returns
      dsimp only at returns
      have returns := returns_set_bind returns
      obtain ⟨sources, found, sourcesReturn, returns⟩ := returns_bind returns
      obtain ⟨_, _, expanded⟩ := findSources_returns sourcesReturn
      have foundRun := findSources_run (expanded _)
      have isFound := congrArg Prod.snd (sourcesReturn.symm.trans foundRun)
      -- what the building reads of the converter is as it was when the conversion began
      have built : ∃ begun : Converter Observed, begun.options = converter.options ∧
          begun.environment = converter.environment ∧ begun.disk = converter.disk ∧
            begun.hooks = converter.hooks ∧
              Returns (build converter.model.size sources) begun key after := by
        dsimp only at isFound
        rw [isFound] at returns
        split at returns
        · obtain ⟨_, reported, reportReturns, returns⟩ := returns_bind returns
          cases reportReturns
          refine ⟨_, ?_, ?_, ?_, ?_, returns⟩ <;> rfl
        · refine ⟨_, ?_, ?_, ?_, ?_, returns⟩ <;> rfl
      obtain ⟨begun, sameOptions, sameEnvironment, sameDisk, sameHooks, returns⟩ := built
      have stillNobody : NoListeners begun.hooks := sameHooks ▸ noListeners
      rw [build] at returns
      obtain ⟨_, _, announced, returns⟩ := returns_bind returns
      obtain ⟨_, _, sourcesConverted, _⟩ := returns_bind returns
      cases announced.symm.trans (announce_run stillNobody _ _ _)
      have sound := failure?_of_convertInputs stillNobody sourcesConverted
      rw [sameOptions, sameEnvironment, sameDisk] at sound
      exact ⟨sources, _, notes, read, expanded _, sound⟩

/-- Without listeners, a conversion returns just where nothing ends it. -/
theorem convert_returns_iff
    (noListeners : NoListeners converter.hooks)
    {inputs : List String} {key : Nat} {after : Converter Observed} :
    Returns (convert inputs) converter key after ↔
      ∃ sources readme notes, Proceeds converter inputs sources readme notes ∧
        key = converter.model.size ∧
        after = converted converter inputs sources readme notes := by
  constructor
  · intro returns
    obtain ⟨sources, readme, notes, proceeds⟩ := proceeds_of_returns noListeners returns
    have result := returns.symm.trans (convert_run noListeners proceeds)
    cases result
    exact ⟨sources, readme, notes, proceeds, rfl, rfl⟩
  · rintro ⟨sources, readme, notes, proceeds, rfl, rfl⟩
    exact convert_run noListeners proceeds

theorem converted_project
    (converter : Converter Observed) (inputs : List String) (sources : List SourceInput)
    (readme : String) (notes : List (Level × String)) :
    (converted converter inputs sources readme notes).model.project converter.model.size =
      { readme
        tree := .node (projectDeclaration converter.options)
          (treesOf (sources.flatMap
            (outline converter.environment.platform converter.options converter.disk))) } :=
  planted_project converter.model (projectDeclaration converter.options) readme _

end ApiDocs.Convert
