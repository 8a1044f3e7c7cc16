import ApiDocs.Proofs.Convert.Building
import ApiDocs.Proofs.Convert.Messages
import ApiDocs.Proofs.Settings.Verbosity

/-!
# Conversions beside each other

Two conversions that differ only in which messages are written go the same way: both are told the
same messages, answer or fail alike, and build the same model.
-/

namespace ApiDocs.Convert

open ApiDocs.Computation

variable {Observed : Type}

/-- Two converters are the same but for which messages are written, and have been told the same
since two loggers. -/
def Beside (base base' : Logger) (first second : Converter Observed) : Prop :=
  ∃ options logger, second = { first with options, logger } ∧
    first.options.SameButVerbosity options ∧ Logger.Parallel base base' first.logger logger

variable {base base' : Logger} {first second : Converter Observed}

/-! ## Events -/

theorem notify_agrees
    (listener : ConvertListener Observed) (key : Nat) (origin : Option Origin)
    (beside : Beside base base' first second) :
    Agree (Beside base base') (notify listener key origin) (notify listener key origin)
      first second := by
  obtain ⟨options, logger, rfl, sameOptions, parallel⟩ := beside
  apply agree_get_bind
  dsimp only
  rcases (listener key origin).run (first.model, first.observed) with
    ⟨outcome, model, observed⟩
  refine agree_bind (agree_set ⟨options, logger, rfl, sameOptions, parallel⟩)
    fun _ beside => ?_
  cases outcome with
  | ok answer => exact agree_pure beside ()
  | error failure => exact agree_throw beside failure

theorem announce_agrees
    (event : ConvertEvent) (key : Nat) (origin : Option Origin)
    (beside : Beside base base' first second) :
    Agree (Beside base base') (announce event key origin) (announce event key origin)
      first second := by
  obtain ⟨options, logger, rfl, sameOptions, parallel⟩ := beside
  apply agree_get_bind
  refine agree_bind (agree_set ⟨options, logger, rfl, sameOptions, parallel⟩)
    fun _ beside => ?_
  refine agree_bind (agree_loop (fun listener _ beside => ?_) beside)
    fun _ beside => agree_pure beside _
  exact notify_agrees listener key origin beside

theorem report_agrees (level : Level) (message : String)
    (beside : Beside base base' first second) :
    Agree (Beside base base') (report level message) (report level message) first second := by
  obtain ⟨options, logger, rfl, sameOptions, parallel⟩ := beside
  exact agree_modify ⟨options, _, rfl, sameOptions, parallel.log level message⟩

/-! ## Declarations -/

theorem attach_agrees (parent : Nat) (declaration : Declaration) (origin : Origin)
    (beside : Beside base base' first second) :
    Agree (Beside base base') (attach parent declaration origin)
      (attach parent declaration origin) first second := by
  obtain ⟨options, logger, rfl, sameOptions, parallel⟩ := beside
  apply agree_get_bind
  refine agree_bind (agree_set ⟨options, logger, rfl, sameOptions, parallel⟩)
    fun _ beside => ?_
  exact agree_bind (announce_agrees _ _ _ beside) fun _ beside => agree_pure beside _

mutual

theorem attachEntry_agrees (parent : Nat) (entry : Entry) {first second : Converter Observed}
    (beside : Beside base base' first second) :
    Agree (Beside base base') (attachEntry parent entry) (attachEntry parent entry)
      first second := by
  match entry with
  | .failed failure =>
      rw [attachEntry]
      exact agree_throw beside failure
  | .declared declaration origin members =>
      rw [attachEntry]
      exact agree_bind (attach_agrees parent declaration origin beside) fun key beside =>
        attachEntries_agrees key members beside

theorem attachEntries_agrees (parent : Nat) (entries : List Entry)
    {first second : Converter Observed} (beside : Beside base base' first second) :
    Agree (Beside base base') (attachEntries parent entries) (attachEntries parent entries)
      first second := by
  match entries with
  | [] =>
      rw [attachEntries]
      exact agree_pure beside ()
  | entry :: entries =>
      rw [attachEntries]
      exact agree_bind (attachEntry_agrees parent entry beside) fun _ beside =>
        attachEntries_agrees parent entries beside

end

/-! ## Files -/

/-- What is read from an input does not depend on which messages are written. -/
theorem readInput_sameButVerbosity {options others : Options}
    (same : options.SameButVerbosity others) (platform : Platform) (disk : Disk)
    (input : SourceInput) :
    readInput platform others disk input = readInput platform options disk input := by
  have excludes := same.switchOf (Eq.refl OptionName.excludePrivate.isVerbosity)
  have hides := same.switchOf (Eq.refl OptionName.disableSources.isVerbosity)
  simp only [readInput, readSource, excludes, hides]

theorem convertInput_agrees (project : Nat) (source : SourceInput)
    (beside : Beside base base' first second) :
    Agree (Beside base base') (convertInput project source) (convertInput project source)
      first second := by
  obtain ⟨options, logger, rfl, sameOptions, parallel⟩ := beside
  have beside : Beside base base' first { first with options, logger } :=
    ⟨options, logger, rfl, sameOptions, parallel⟩
  apply agree_get_bind
  dsimp only
  rw [readInput_sameButVerbosity sameOptions]
  split
  · exact attachEntry_agrees _ _ beside
  · exact report_agrees _ _ beside
  · exact agree_throw beside _

theorem readReadme_agrees (beside : Beside base base' first second) :
    Agree (Beside base base') readReadme readReadme first second := by
  obtain ⟨options, logger, rfl, sameOptions, parallel⟩ := beside
  have beside : Beside base base' first { first with options, logger } :=
    ⟨options, logger, rfl, sameOptions, parallel⟩
  apply agree_get_bind
  dsimp only
  rw [sameOptions.textOf (Eq.refl OptionName.readme.isVerbosity)]
  split
  · exact agree_pure beside ""
  · split
    · exact agree_throw beside _
    · split
      · exact agree_pure beside _
      · exact agree_bind (report_agrees _ _ beside) fun _ beside => agree_pure beside ""
      · exact agree_throw beside _

/-- Inputs that are neither sources nor directories are reported to both loggers. -/
theorem expandFrom_parallel (environment : Environment) (disk : Disk) (found : Found)
    {logger logger' : Logger} (parallel : Logger.Parallel base base' logger logger')
    (inputs : List String) :
    Logger.Parallel base base' (expandFrom environment disk found logger inputs).2
      (expandFrom environment disk found logger' inputs).2 := by
  induction inputs generalizing found logger logger' with
  | nil => exact parallel
  | cons input inputs inductionHypothesis =>
      rw [expandFrom, expandFrom]
      split
      · exact parallel
      · split
        · exact parallel
        · exact inductionHypothesis _ parallel
        · exact inductionHypothesis found (parallel.log .error _)

theorem findSources_agrees (inputs : List String) (beside : Beside base base' first second) :
    Agree (Beside base base') (findSources inputs) (findSources inputs) first second := by
  obtain ⟨options, logger, rfl, sameOptions, parallel⟩ := beside
  have expands := expandFrom_parallel first.environment first.disk ⟨[], []⟩ parallel inputs
  have sameSources :=
    expandFrom_fst first.environment first.disk ⟨[], []⟩ logger first.logger inputs
  apply agree_get_bind
  dsimp only [expandInputs]
  rw [sameSources]
  exact agree_bind (agree_set ⟨options, _, rfl, sameOptions, expands⟩) fun _ beside =>
    agree_liftM beside _

/-! ## Projects -/

theorem resolveBelow_agrees (depth key : Nat) (beside : Beside base base' first second) :
    Agree (Beside base base') (resolveBelow depth key) (resolveBelow depth key)
      first second := by
  induction depth generalizing first second key with
  | zero => exact agree_pure beside ()
  | succ depth inductionHypothesis =>
      obtain ⟨options, logger, rfl, sameOptions, parallel⟩ := beside
      apply agree_get_bind
      refine agree_bind (agree_forIn (fun child _ beside => ?_)
        ⟨options, logger, rfl, sameOptions, parallel⟩) fun _ beside => agree_pure beside _
      refine agree_bind (announce_agrees _ _ _ beside) fun _ beside => ?_
      exact agree_bind (inductionHypothesis child beside) fun _ beside =>
        agree_pure beside _

/-- Conversions beside each other go the same way. -/
theorem convert_agrees (inputs : List String) (beside : Beside base base' first second) :
    Agree (Beside base base') (convert inputs) (convert inputs) first second := by
  refine agree_bind (readReadme_agrees beside) fun readme beside => ?_
  obtain ⟨options, logger, rfl, sameOptions, parallel⟩ := beside
  apply agree_get_bind
  dsimp only
  rw [sameOptions.textOf (Eq.refl OptionName.name.isVerbosity)]
  refine agree_bind (agree_set ⟨options, logger, rfl, sameOptions, parallel⟩)
    fun _ beside => ?_
  refine agree_bind (findSources_agrees inputs beside) fun sources beside => ?_
  have rest {state state' : Converter Observed} (beside : Beside base base' state state')
      (project : Nat) :
      let rest : Converting Observed Nat := do
        announce .begin project none
        for source in sources do
          convertInput project source
        announce .resolveBegin project none
        let converter ← get
        resolveBelow converter.model.size project
        announce .finish project none
        return project
      Agree (Beside base base') rest rest state state' := by
    refine agree_bind (announce_agrees _ _ _ beside) fun _ beside => ?_
    refine agree_bind (agree_loop (fun source _ beside => ?_) beside)
      fun _ beside => ?_
    · exact convertInput_agrees project source beside
    refine agree_bind (announce_agrees _ _ _ beside) fun _ beside => ?_
    obtain ⟨options, logger, rfl, sameOptions, parallel⟩ := beside
    apply agree_get_bind
    refine agree_bind (resolveBelow_agrees _ _ ⟨options, logger, rfl, sameOptions, parallel⟩)
      fun _ beside => ?_
    exact agree_bind (announce_agrees _ _ _ beside) fun _ beside => agree_pure beside _
  split
  · exact agree_bind (report_agrees _ _ beside) fun _ beside => rest beside _
  · exact rest beside _

end ApiDocs.Convert
