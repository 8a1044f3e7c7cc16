import ApiDocs.Proofs.Computation
import ApiDocs.Proofs.Log.Messages
import ApiDocs.Proofs.Settings.Verbosity
import ApiDocs.Site.Render

/-!
# Renderings beside each other

Two renderings that differ only in which messages are written go the same way, unless a listener
asks for just that: they insert the same fragments, write the same files and report the same
problems.
-/

namespace ApiDocs.Site

open ApiDocs.Computation

variable {Observed : Type}

/-- No listener of a hook point asks which messages are written. -/
def IgnoresVerbosity (hooks : Hooks HookPoint (HookListener Observed)) : Prop :=
  ∀ point, ∀ record ∈ hooks.registrations point, ∀ context : Context,
    record.listener { context with options := context.options.withoutVerbosity } =
      record.listener context

theorem IgnoresVerbosity.dropOnce {hooks : Hooks HookPoint (HookListener Observed)}
    (ignores : IgnoresVerbosity hooks) (event : HookPoint) :
    IgnoresVerbosity (hooks.dropOnce event) :=
  fun point record member =>
    ignores point record ((hooks.registrations_dropOnce_sublist event point).mem member)

/-- Two contexts are the same but for which messages are written. -/
def Context.SameButVerbosity (first second : Context) : Prop :=
  ∃ options, second = { first with options } ∧ first.options.SameButVerbosity options

theorem IgnoresVerbosity.listener_eq {hooks : Hooks HookPoint (HookListener Observed)}
    (ignores : IgnoresVerbosity hooks) {point : HookPoint} {listener : HookListener Observed}
    (member : listener ∈ hooks.snapshot point) {first second : Context}
    (same : first.SameButVerbosity second) : listener second = listener first := by
  obtain ⟨options, rfl, sameOptions⟩ := same
  obtain ⟨record, registered, rfl⟩ := List.mem_map.mp member
  rw [← ignores point record registered first, ← ignores point record registered]
  exact congrArg (fun options => record.listener { first with options }) sameOptions.symm

/-- Two renderers are the same but for which messages are written, and have been told the same
since two loggers.  No listener asks for the difference. -/
def Beside (base base' : Logger) (first second : Renderer Observed) : Prop :=
  ∃ options logger, second = { first with options, logger } ∧
    first.options.SameButVerbosity options ∧ Logger.Parallel base base' first.logger logger ∧
      IgnoresVerbosity first.hooks

variable {base base' : Logger} {first second : Renderer Observed}

/-! ## Listeners -/

theorem listen_agrees {Answer : Type} (action : Listening Observed Answer)
    (beside : Beside base base' first second) :
    Agree (Beside base base') (listen action) (listen action) first second := by
  obtain ⟨options, logger, rfl, sameOptions, parallel, ignores⟩ := beside
  apply agree_get_bind
  dsimp only
  rcases action.run first.observed with ⟨outcome, observed⟩
  refine agree_bind (agree_set ⟨options, logger, rfl, sameOptions, parallel, ignores⟩)
    fun _ beside => ?_
  cases outcome with
  | ok answer => exact agree_pure beside answer
  | error failure => exact agree_throw beside failure

theorem fragment_agrees {context context' : Context} (same : context.SameButVerbosity context')
    (point : HookPoint) (beside : Beside base base' first second) :
    Agree (Beside base base') (fragment context point) (fragment context' point)
      first second := by
  obtain ⟨options, logger, rfl, sameOptions, parallel, ignores⟩ := beside
  apply agree_get_bind
  refine agree_bind
    (agree_set ⟨options, logger, rfl, sameOptions, parallel, ignores.dropOnce point⟩)
    fun _ beside => ?_
  refine agree_bind (agree_mapM (fun listener member beside => ?_) beside)
    fun answers beside => agree_pure beside _
  rw [ignores.listener_eq member same]
  exact listen_agrees _ beside

theorem announceRun_agrees (event : RenderEvent) (project : Project) (out : Path)
    (beside : Beside base base' first second) :
    Agree (Beside base base') (announceRun event project out) (announceRun event project out)
      first second := by
  obtain ⟨options, logger, rfl, sameOptions, parallel, ignores⟩ := beside
  apply agree_get_bind
  refine agree_bind (agree_set ⟨options, logger, rfl, sameOptions, parallel, ignores⟩)
    fun _ beside => ?_
  refine agree_bind (agree_loop (fun listener _ beside => ?_) beside)
    fun _ beside => agree_pure beside _
  exact agree_map (listen_agrees _ beside) _

theorem announcePage_agrees (event : RenderEvent) (page : Page)
    (beside : Beside base base' first second) :
    Agree (Beside base base') (announcePage event page) (announcePage event page)
      first second := by
  obtain ⟨options, logger, rfl, sameOptions, parallel, ignores⟩ := beside
  apply agree_get_bind
  refine agree_bind (agree_set ⟨options, logger, rfl, sameOptions, parallel, ignores⟩)
    fun _ beside => ?_
  refine agree_foldlM (fun page listener _ beside => ?_) page beside
  exact agree_bind (listen_agrees _ beside) fun answer beside => agree_pure beside _

/-! ## Pages -/

/-- Links to what encloses a declaration do not depend on the options. -/
theorem crumbs_options (context : Context) (options : Options) (chain : List Declaration) :
    crumbs { context with options } chain = crumbs context chain := by
  induction chain with
  | nil => rfl
  | cons declaration chain inductionHypothesis =>
      rw [crumbs, crumbs, inductionHypothesis]
      rfl

/-- What a page says, apart from the fragments, does not depend on the options. -/
theorem content_options (context : Context) (options : Options) :
    content { context with options } = content context := by
  have trail : breadcrumb { context with options } = breadcrumb context := by
    rw [breadcrumb, breadcrumb, crumbs_options]
  rw [content, content]
  cases context.page.template with
  | index => rfl
  | declaration =>
      simp only [declarationContent, trail]
      rfl

theorem renderPage_agrees (page : Page) (beside : Beside base base' first second) :
    Agree (Beside base base') (renderPage page) (renderPage page) first second := by
  obtain ⟨options, logger, rfl, sameOptions, parallel, ignores⟩ := beside
  have same : Context.SameButVerbosity
      { page, options := first.options, directory := first.disk.workingDirectory }
      { page, options, directory := first.disk.workingDirectory } :=
    ⟨options, rfl, sameOptions⟩
  apply agree_get_bind
  have sameContent := content_options
    { page, options := first.options, directory := first.disk.workingDirectory } options
  dsimp only at sameContent ⊢
  rw [sameContent]
  refine agree_bind
    (agree_liftM ⟨options, logger, rfl, sameOptions, parallel, ignores⟩ _)
    fun text beside => ?_
  refine agree_bind (agree_mapM (fun point _ beside => ?_) beside) fun fragments beside =>
    agree_pure beside _
  exact agree_bind (fragment_agrees same point beside) fun fragment beside => agree_pure beside _

theorem producePage_agrees (page : Page) (beside : Beside base base' first second) :
    Agree (Beside base base') (producePage page) (producePage page) first second := by
  refine agree_bind (announcePage_agrees _ page beside) fun page beside => ?_
  exact agree_bind (renderPage_agrees page beside) fun contents beside =>
    announcePage_agrees _ _ beside

/-! ## Files -/

theorem report_agrees (level : Level) (message : String)
    (beside : Beside base base' first second) :
    Agree (Beside base base') (report level message) (report level message) first second := by
  obtain ⟨options, logger, rfl, sameOptions, parallel, ignores⟩ := beside
  exact agree_modify ⟨options, _, rfl, sameOptions, parallel.log level message, ignores⟩

theorem onDisk_agrees (change : Disk → Except FileFault Disk)
    (beside : Beside base base' first second) :
    Agree (Beside base base') (onDisk change) (onDisk change) first second := by
  obtain ⟨options, logger, rfl, sameOptions, parallel, ignores⟩ := beside
  apply agree_get_bind
  dsimp only
  cases change first.disk with
  | ok disk => exact agree_set ⟨options, logger, rfl, sameOptions, parallel, ignores⟩
  | error fault =>
      exact agree_throw ⟨options, logger, rfl, sameOptions, parallel, ignores⟩ _

theorem writePage_agrees (out : Path) (page : Page) (beside : Beside base base' first second) :
    Agree (Beside base base') (writePage out page) (writePage out page) first second := by
  refine agree_bind (agree_tryCatch (agree_map (producePage_agrees page beside) _)
    fun failure beside => ?_) fun produced? beside => ?_
  · exact agree_bind (report_agrees _ _ beside) fun _ beside => agree_pure beside none
  · cases produced? with
    | none => exact agree_pure beside ()
    | some produced =>
        exact agree_bind (onDisk_agrees _ beside) fun _ beside => onDisk_agrees _ beside

theorem writeAssets_agrees (out : Path) (beside : Beside base base' first second) :
    Agree (Beside base base') (writeAssets out) (writeAssets out) first second := by
  refine agree_bind (onDisk_agrees _ beside) fun _ beside => ?_
  refine agree_bind (onDisk_agrees _ beside) fun _ beside => ?_
  obtain ⟨options, logger, rfl, sameOptions, parallel, ignores⟩ := beside
  apply agree_get_bind
  dsimp only
  rw [sameOptions.textOf (Eq.refl OptionName.highlightStyle.isVerbosity)]
  split
  · exact onDisk_agrees _ ⟨options, logger, rfl, sameOptions, parallel, ignores⟩
  · refine agree_bind
      (report_agrees _ _ ⟨options, logger, rfl, sameOptions, parallel, ignores⟩)
      fun _ beside => onDisk_agrees _ beside

/-! ## Runs -/

theorem prepareOutput_agrees (out : Path) (beside : Beside base base' first second) :
    Agree (Beside base base') (prepareOutput out) (prepareOutput out) first second := by
  obtain ⟨options, logger, rfl, sameOptions, parallel, ignores⟩ := beside
  apply agree_get_bind
  dsimp only
  rw [sameOptions.textsOf (Eq.refl OptionName.inputFiles.isVerbosity)]
  refine agree_bind
    (agree_liftM ⟨options, logger, rfl, sameOptions, parallel, ignores⟩ _)
    fun refused beside => ?_
  cases refused with
  | some refusal =>
      exact agree_bind (report_agrees _ _ beside) fun _ beside => agree_pure beside false
  | none =>
      refine agree_bind (onDisk_agrees _ beside) fun _ beside => ?_
      exact agree_bind (onDisk_agrees _ beside) fun _ beside => agree_pure beside true

/-- Renderings beside each other go the same way. -/
theorem render_agrees (project : Project) (out : Path)
    (beside : Beside base base' first second) :
    Agree (Beside base base') (render project out) (render project out) first second := by
  refine agree_bind (prepareOutput_agrees out beside) fun isPrepared beside => ?_
  cases isPrepared with
  | false => exact agree_pure beside ()
  | true =>
      refine agree_bind (announceRun_agrees _ project out beside) fun _ beside => ?_
      refine agree_bind (writeAssets_agrees out beside) fun _ beside => ?_
      refine agree_bind (agree_loop (fun page _ beside => ?_) beside) fun _ beside => ?_
      · exact writePage_agrees out page beside
      · exact announceRun_agrees _ project out beside

end ApiDocs.Site
