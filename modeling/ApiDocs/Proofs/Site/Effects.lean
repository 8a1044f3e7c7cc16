import ApiDocs.Proofs.Log.Messages
import ApiDocs.Proofs.Site.Listeners
import ApiDocs.Proofs.Site.Writing

/-!
# What a run does

With listeners that only answer, a run of the renderer is a sequence of changes of the files, of
messages and of events, each of which is known beforehand.  It fails only where a change of the
files does.
-/

namespace ApiDocs.Site

open ApiDocs.Computation

variable {Observed : Type}

/-! ## Effects -/

/-- A change of the files, what is told to the logger, and the events that are announced. -/
structure Effect where
  change : Disk → Except FileFault Disk
  messages : List (Level × String)
  trace : List Emission

namespace Effect

/-- Nothing happens. -/
def none : Effect := { change := .ok, messages := [], trace := [] }

/-- Only the files change. -/
def ofChange (change : Disk → Except FileFault Disk) : Effect :=
  { change, messages := [], trace := [] }

/-- Only an event of the run is announced. -/
def ofEvent (event : RenderEvent) (project : Project) (out : Path) : Effect :=
  { change := .ok, messages := [], trace := [(event, .run project out)] }

/-- Only the logger is told something. -/
def ofMessage (level : Level) (message : String) : Effect :=
  { change := .ok, messages := [(level, message)], trace := [] }

/-- One effect after another. -/
def followedBy (first second : Effect) : Effect where
  change := fun disk => first.change disk >>= second.change
  messages := first.messages ++ second.messages
  trace := first.trace ++ second.trace

theorem change_followedBy (first second : Effect) (disk : Disk) :
    (first.followedBy second).change disk = first.change disk >>= second.change :=
  rfl

/-- The effects of a list, one after the other. -/
def sequence (effects : List Effect) : Effect := effects.foldr followedBy none

theorem messages_sequence (effects : List Effect) :
    (sequence effects).messages = effects.flatMap Effect.messages := by
  induction effects with
  | nil => rfl
  | cons first rest inductionHypothesis =>
      rw [List.flatMap_cons, ← inductionHypothesis]
      rfl

theorem trace_sequence (effects : List Effect) :
    (sequence effects).trace = effects.flatMap Effect.trace := by
  induction effects with
  | nil => rfl
  | cons first rest inductionHypothesis =>
      rw [List.flatMap_cons, ← inductionHypothesis]
      rfl

end Effect

/-- What a renderer is after an effect that left the given files. -/
def Renderer.after (renderer : Renderer Observed) (effect : Effect) (disk : Disk) :
    Renderer Observed :=
  { renderer with
    disk
    logger := renderer.logger.logAll effect.messages
    observed := heard renderer effect.trace renderer.observed }

/-- Renderers with the same listeners and options in the same working directory. -/
structure Alike (first second : Renderer Observed) : Prop where
  options : second.options = first.options
  environment : second.environment = first.environment
  hooks : second.hooks = first.hooks
  events : second.events = first.events
  workingDirectory : second.disk.workingDirectory = first.disk.workingDirectory

/-- In every renderer like the given one an action has an effect; where the files cannot be changed
as the effect wants it, the action fails with that fault. -/
def Does (base : Renderer Observed) (action : Rendering Observed Unit) (effect : Effect) : Prop :=
  ∀ renderer, Alike base renderer →
    (∀ disk, effect.change renderer.disk = .ok disk →
      disk.workingDirectory = renderer.disk.workingDirectory ∧
        action.run renderer = (.ok (), renderer.after effect disk)) ∧
      ∀ fault, effect.change renderer.disk = .error fault →
        (action.run renderer).1 = .error (.file fault)

section Does

variable {base renderer : Renderer Observed}

theorem Alike.refl (renderer : Renderer Observed) : Alike renderer renderer :=
  ⟨rfl, rfl, rfl, rfl, rfl⟩

theorem Alike.after (alike : Alike base renderer) {effect : Effect} {disk : Disk}
    (stays : disk.workingDirectory = renderer.disk.workingDirectory) :
    Alike base (renderer.after effect disk) :=
  ⟨alike.options, alike.environment, alike.hooks, alike.events,
    stays.trans alike.workingDirectory⟩

theorem after_followedBy (renderer : Renderer Observed) (first second : Effect)
    (middle disk : Disk) :
    (renderer.after first middle).after second disk =
      renderer.after (first.followedBy second) disk := by
  have messages : (renderer.logger.logAll first.messages).logAll second.messages =
      renderer.logger.logAll (first.messages ++ second.messages) :=
    (Logger.logAll_append renderer.logger first.messages second.messages).symm
  have observed : heard renderer second.trace (heard renderer first.trace renderer.observed) =
      heard renderer (first.trace ++ second.trace) renderer.observed :=
    List.foldl_append.symm
  calc (renderer.after first middle).after second disk =
      { renderer with
        disk
        logger := (renderer.logger.logAll first.messages).logAll second.messages
        observed := heard renderer second.trace
          (heard renderer first.trace renderer.observed) } := rfl
    _ = renderer.after (first.followedBy second) disk := by
      rw [messages, observed]
      rfl

/-- What happens without a change of the files. -/
theorem does_of_run {action : Rendering Observed Unit} {effect : Effect}
    (noChange : effect.change = .ok)
    (runs : ∀ renderer, Alike base renderer →
      action.run renderer = (.ok (), renderer.after effect renderer.disk)) :
    Does base action effect := by
  intro renderer alike
  rw [noChange]
  constructor
  · intro disk same
    obtain rfl := Except.ok.inj same
    exact ⟨rfl, runs renderer alike⟩
  · intro fault failed
    cases failed

theorem does_bind
    {first second : Rendering Observed Unit} {firstEffect secondEffect : Effect}
    (firstDoes : Does base first firstEffect) (secondDoes : Does base second secondEffect) :
    Does base (first >>= fun _ => second) (firstEffect.followedBy secondEffect) := by
  intro renderer alike
  obtain ⟨succeeds, fails⟩ := firstDoes renderer alike
  cases changed : firstEffect.change renderer.disk with
  | error fault =>
      have failed := fails fault changed
      have whole : (firstEffect.followedBy secondEffect).change renderer.disk = .error fault := by
        rw [Effect.change_followedBy, changed]
        rfl
      refine ⟨fun disk other => ?_, fun other same => ?_⟩
      · rw [whole] at other
        cases other
      · rw [whole] at same
        obtain rfl := Except.error.inj same
        rw [run_bind]
        rcases ran : first.run renderer with ⟨outcome, after⟩
        rw [ran] at failed
        simp only at failed
        rw [failed]
  | ok middle =>
      obtain ⟨stays, ran⟩ := succeeds middle changed
      obtain ⟨thenSucceeds, thenFails⟩ :=
        secondDoes (renderer.after firstEffect middle) (alike.after stays)
      have whole : (firstEffect.followedBy secondEffect).change renderer.disk =
          secondEffect.change middle := by
        rw [Effect.change_followedBy, changed]
        rfl
      rw [whole, run_bind, ran]
      refine ⟨fun disk changed => ?_, thenFails⟩
      obtain ⟨thenStays, thenRan⟩ := thenSucceeds disk changed
      rw [after_followedBy] at thenRan
      exact ⟨thenStays.trans stays, thenRan⟩

theorem does_forIn {Item : Type} {items : List Item} {step : Item → Rendering Observed Unit}
    {effectOf : Item → Effect}
    (each : ∀ item ∈ items, Does base (step item) (effectOf item)) :
    Does base
      (forIn items PUnit.unit fun item _ => do
        step item
        pure (ForInStep.yield PUnit.unit))
      (Effect.sequence (items.map effectOf)) := by
  induction items with
  | nil => exact does_of_run rfl fun renderer _ => rfl
  | cons item items inductionHypothesis =>
      have unfolded :
          (forIn (item :: items) PUnit.unit fun item _ => do
            step item
            pure (ForInStep.yield PUnit.unit) : Rendering Observed PUnit) =
            step item >>= fun _ =>
              (forIn items PUnit.unit fun item _ => do
                step item
                pure (ForInStep.yield PUnit.unit)) := by
        rw [List.forIn_cons, bind_assoc]
        simp only [pure_bind]
      rw [unfolded]
      exact does_bind (each item List.mem_cons_self)
        (inductionHypothesis fun other member => each other (List.mem_cons_of_mem item member))

theorem does_onDisk {change : Disk → Except FileFault Disk}
    (stays : ∀ {before after : Disk}, change before = .ok after →
      after.workingDirectory = before.workingDirectory) :
    Does base (onDisk change) (.ofChange change) := by
  intro renderer _
  have asked : (get : Rendering Observed _).run renderer = (.ok renderer, renderer) := rfl
  refine ⟨fun disk changed => ?_, fun fault failed => ?_⟩
  · have changes : change renderer.disk = .ok disk := changed
    refine ⟨stays changes, (run_bind_ok asked).trans ?_⟩
    rw [changes]
    rfl
  · have fails : change renderer.disk = .error fault := failed
    have ran : (onDisk change).run renderer = (.error (.file fault), renderer) := by
      refine (run_bind_ok asked).trans ?_
      rw [fails]
      rfl
    rw [ran]

theorem does_get_bind {next : Renderer Observed → Rendering Observed Unit} {effect : Effect}
    (each : ∀ renderer, Alike base renderer → Does base (next renderer) effect) :
    Does base (get >>= next) effect :=
  fun renderer alike => each renderer alike renderer alike

theorem does_report (level : Level) (message : String) :
    Does base (report level message) (.ofMessage level message) :=
  does_of_run rfl fun _ _ => rfl

theorem does_writeText (path : Path) (text : String) :
    Does base (writeText path text)
      (.ofChange fun disk => disk.write path (Text.encode text.toList)) :=
  does_onDisk fun {before after} written =>
    (Disk.write_keeps not_false written : Disk.Keeps (fun _ => False) before after).workingDirectory

theorem does_makeDirectories (path : Path) (mayExist : Bool) :
    Does base (onDisk fun disk => disk.makeDirectories path mayExist)
      (.ofChange fun disk => disk.makeDirectories path mayExist) :=
  does_onDisk fun {before after} made =>
    (Disk.makeDirectories_keeps made : Disk.Keeps (fun _ => False) before after).workingDirectory

/-! ## Effects of a run -/

/-- The style sheet for highlighted code that is written for options. -/
def highlightText (options : Options) : String :=
  (highlightSheet? (options.textOf .highlightStyle)).getD
    ((highlightSheet? "default").getD "")

/-- An unknown colour style is mentioned. -/
def styleEffect (options : Options) : Effect :=
  if (highlightSheet? (options.textOf .highlightStyle)).isSome then .none
  else
    .ofMessage .warn
      s!"Unknown highlight style '{options.textOf .highlightStyle}', using 'default'."

def assetsEffect (options : Options) (out : Path) : Effect :=
  let assets := out.child assetsAddress
  (Effect.ofChange fun disk => disk.makeDirectories assets true).followedBy
    ((Effect.ofChange fun disk =>
      disk.write (assets.child "style.css") (Text.encode stylesheet.toList)).followedBy
      ((styleEffect options).followedBy
        (.ofChange fun disk =>
          disk.write (assets.child "highlight.css") (Text.encode (highlightText options).toList))))

def storeEffect (out : Path) (page : Page) : Effect :=
  let target := out.join (Path.ofString page.address)
  (Effect.ofChange fun disk => disk.makeDirectories target.parent true).followedBy
    (.ofChange fun disk => disk.write target (Text.encode page.contents.toList))

/-- What is told to the logger about a page: nothing, unless it cannot be produced. -/
def failureMessages (answers : Answers) (options : Options) (directory : List String)
    (page : Page) : List (Level × String) :=
  match produced answers options directory page with
  | .ok _ => []
  | .error failure => [(.error, s!"Failed to render {page.address}: {failure.message}")]

/-- A page is stored where it is produced, and reported where it is not. -/
def pageEffect (answers : Answers) (options : Options) (directory : List String) (out : Path)
    (page : Page) : Effect :=
  { change := fun disk =>
      match produced answers options directory page with
      | .ok page => (storeEffect out page).change disk
      | .error _ => .ok disk
    messages := failureMessages answers options directory page
    trace := pageTrace answers options directory page }

/-- Everything that happens once the output directory is accepted. -/
def runEffect (renderer : Renderer Observed) (answers : Answers) (project : Project) (out : Path) :
    Effect :=
  let place := renderer.disk.resolve out
  (Effect.ofChange fun disk => .ok (disk.remove place)).followedBy
    ((Effect.ofChange fun disk => disk.makeDirectories (Disk.pathOf place) false).followedBy
      ((Effect.ofEvent .renderBegin project out).followedBy
        ((assetsEffect renderer.options out).followedBy
          ((Effect.sequence ((pages project).map
            (pageEffect answers renderer.options renderer.disk.workingDirectory out))).followedBy
              (.ofEvent .renderEnd project out)))))

theorem AnswersAs.of_alike {answers : Answers} (answersAs : AnswersAs base answers)
    (alike : Alike base renderer) :
    AnswersAs renderer answers where
  hooks := by
    refine ⟨?_, ?_⟩
    · rw [alike.hooks]
      exact answersAs.hooks.kept
    · rw [alike.hooks]
      exact answersAs.hooks.answered
  events := by
    refine ⟨?_, ?_⟩
    · rw [alike.events]
      exact answersAs.events.kept
    · rw [alike.events]
      exact answersAs.events.answered

section Run

variable {answers : Answers} {project : Project} {out : Path}

theorem does_announceRun (answersAs : AnswersAs base answers) {event : RenderEvent}
    (succeed : ∀ answer ∈ answers.events event, ∃ reply, answer (.run project out) = .ok reply) :
    Does base (announceRun event project out) (.ofEvent event project out) :=
  does_of_run rfl fun _ alike => announceRun_run (answersAs.of_alike alike).events succeed

theorem does_writeAssets (out : Path) :
    Does base (writeAssets out) (assetsEffect base.options out) := by
  refine does_bind (does_makeDirectories _ _) (does_bind (does_writeText _ _) (does_get_bind ?_))
  intro renderer alike
  dsimp only
  rw [alike.options]
  split
  · rename_i sheet found
    have text : highlightText base.options = sheet := by rw [highlightText, found, Option.getD_some]
    have style : styleEffect base.options = .none := by rw [styleEffect, found]; rfl
    rw [style, text]
    exact does_writeText _ _
  · rename_i notFound
    have text : highlightText base.options = (highlightSheet? "default").getD "" := by
      rw [highlightText, notFound, Option.getD_none]
    have style : styleEffect base.options = .ofMessage .warn
        s!"Unknown highlight style '{base.options.textOf .highlightStyle}', using 'default'." := by
      rw [styleEffect, notFound]
      rfl
    rw [style, text]
    exact does_bind (does_report _ _) (does_writeText _ _)

theorem does_storePage (out : Path) (page : Page) :
    Does base (storePage out page) (storeEffect out page) :=
  does_bind (does_makeDirectories _ _) (does_writeText _ _)

theorem does_writePage (answersAs : AnswersAs base answers) (page : Page) :
    Does base (writePage out page)
      (pageEffect answers base.options base.disk.workingDirectory out page) := by
  intro renderer alike
  have ran : (producePage page).run renderer =
      (produced answers base.options base.disk.workingDirectory page,
        { renderer with
          observed := heard renderer
            (pageTrace answers base.options base.disk.workingDirectory page)
            renderer.observed }) := by
    rw [← alike.options, ← alike.workingDirectory]
    exact producePage_run (answersAs.of_alike alike) page
  rw [pageEffect, failureMessages]
  cases made : produced answers base.options base.disk.workingDirectory page with
  | error failure =>
      rw [made] at ran
      rw [writePage_of_failed out ran]
      refine ⟨fun disk same => ?_, fun fault failed => ?_⟩
      · obtain rfl := Except.ok.inj same
        exact ⟨rfl, rfl⟩
      · cases failed
  | ok stored =>
      have told : Alike base
          { renderer with
            observed := heard renderer
              (pageTrace answers base.options base.disk.workingDirectory page)
              renderer.observed } :=
        ⟨alike.options, alike.environment, alike.hooks, alike.events, alike.workingDirectory⟩
      rw [made] at ran
      rw [writePage_of_produced out ran]
      exact does_storePage out stored _ told

/-- Where the output directory is accepted, it is emptied before anything else happens. -/
theorem render_of_accepted
    (accepted : refusal? base.environment base.disk (base.options.textsOf .inputFiles) out =
      .ok Option.none) :
    (render project out).run base = (do
      onDisk fun disk => .ok (disk.remove (base.disk.resolve out))
      onDisk fun disk => disk.makeDirectories (Disk.pathOf (base.disk.resolve out)) false
      announceRun .renderBegin project out
      writeAssets out
      for page in pages project do
        writePage out page
      announceRun .renderEnd project out : Rendering Observed Unit).run base := by
  have prepared : (prepareOutput out).run base = (do
      onDisk fun disk => .ok (disk.remove (base.disk.resolve out))
      onDisk fun disk => disk.makeDirectories (Disk.pathOf (base.disk.resolve out)) false
      return true : Rendering Observed Bool).run base := by
    rw [prepareOutput, run_bind, run_get]
    simp only
    rw [run_bind, accepted, run_liftM]
  rw [render, run_bind, prepared, run_bind, run_bind]
  rcases (onDisk fun disk => .ok (disk.remove (base.disk.resolve out)) :
    Rendering Observed Unit).run base with ⟨_ | _, removed⟩
  · rfl
  · simp only
    rw [run_bind, run_bind]
    rcases (onDisk fun disk =>
      disk.makeDirectories (Disk.pathOf (base.disk.resolve out)) false :
        Rendering Observed Unit).run removed with ⟨_ | _, made⟩
    · rfl
    · rfl

/-- A run over an accepted output directory has its effect, unless the files cannot be changed. -/
theorem does_render (answersAs : AnswersAs base answers)
    (accepted : refusal? base.environment base.disk (base.options.textsOf .inputFiles) out =
      .ok Option.none)
    (succeed : ∀ event ∈ [RenderEvent.renderBegin, .renderEnd],
      ∀ answer ∈ answers.events event, ∃ reply, answer (.run project out) = .ok reply) :
    (∀ disk, (runEffect base answers project out).change base.disk = .ok disk →
      (render project out).run base =
        (.ok (), base.after (runEffect base answers project out) disk)) ∧
      ∀ fault, (runEffect base answers project out).change base.disk = .error fault →
        ((render project out).run base).1 = .error (.file fault) := by
  have stays (place : List String) : Does base (onDisk fun disk => .ok (disk.remove place))
      (.ofChange fun disk => .ok (disk.remove place)) := by
    refine does_onDisk fun {_ _} removed => ?_
    rw [← Except.ok.inj removed]
    rfl
  have pagesDo : Does base
      (forIn (pages project) PUnit.unit fun page _ => do
        writePage out page
        pure (ForInStep.yield PUnit.unit))
      (Effect.sequence ((pages project).map
        (pageEffect answers base.options base.disk.workingDirectory out))) :=
    does_forIn fun page _ => does_writePage answersAs page
  have begins := does_announceRun answersAs (succeed .renderBegin List.mem_cons_self)
  have ends := does_announceRun answersAs
    (succeed .renderEnd (List.mem_cons_of_mem _ List.mem_cons_self))
  have whole := does_bind (stays (base.disk.resolve out)) (does_bind
    (does_makeDirectories (Disk.pathOf (base.disk.resolve out)) false)
    (does_bind begins (does_bind (does_writeAssets out) (does_bind pagesDo ends))))
  rw [render_of_accepted accepted]
  obtain ⟨succeeds, fails⟩ := whole base (.refl base)
  exact ⟨fun disk changed => (succeeds disk changed).2, fails⟩

end Run

end Does

end ApiDocs.Site
