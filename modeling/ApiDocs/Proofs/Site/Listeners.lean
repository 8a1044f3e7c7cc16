import ApiDocs.Proofs.Computation
import ApiDocs.Site.Render
import Mathlib.Data.List.Forall2

/-!
# Listeners that only answer

A listener whose answer depends on nothing but what it is told can be given as a function.  With
such listeners the text of a page, and what becomes of it when its events are announced, are
functions as well: of the page, the options and the working directory, but not of the files, the
diagnostics or the pages before it.
-/

namespace ApiDocs

namespace Computation

variable {State Answer Other Item Reply : Type} {state : State}

/-- Steps that leave the state alone leave it alone together. -/
theorem run_mapM_of_forall₂
    {items : List Item} {replies : List Reply}
    {step : Item → Computation State Answer} {answer : Reply → Except Failure Answer}
    (each : List.Forall₂ (fun item reply => (step item).run state = (answer reply, state))
      items replies) :
    (items.mapM step).run state = (replies.mapM answer, state) := by
  induction each with
  | nil => rfl
  | @cons item reply items replies first _ inductionHypothesis =>
      rw [List.mapM_cons, List.mapM_cons, run_bind, first]
      cases answer reply with
      | error failure => rfl
      | ok result =>
          simp only [run_bind, inductionHypothesis]
          cases replies.mapM answer <;> rfl

end Computation

namespace Site

open ApiDocs.Computation

variable {Observed : Type}

theorem listen_run {Answer : Type} (action : Listening Observed Answer)
    (renderer : Renderer Observed) :
    (listen action).run renderer =
      ((action.run renderer.observed).1,
        { renderer with observed := (action.run renderer.observed).2 }) := by
  have asked : (get : Rendering Observed _).run renderer = (.ok renderer, renderer) := rfl
  refine (run_bind_ok asked).trans ?_
  rcases action.run renderer.observed with ⟨outcome, observed⟩
  cases outcome with
  | error failure => rfl
  | ok answer => rfl

/-! ## Hook points -/

/-- The listeners of the hook points, as functions of what they are told. -/
abbrev HookAnswers := HookPoint → List (Context → Except Failure (Option String))

/-- The listeners at the hook points answer as given and observe nothing, and each is asked whenever
its hook point is reached. -/
structure AnswersHooks (renderer : Renderer Observed) (answers : HookAnswers) : Prop where
  kept : ∀ point, ∀ record ∈ renderer.hooks.registrations point, record.once = false
  answered : ∀ point, List.Forall₂
    (fun listener answer => ∀ context observed,
      (listener context).run observed = (answer context, observed))
    (renderer.hooks.snapshot point) (answers point)

/-- The fragments for a hook point. -/
def inserted (answers : HookAnswers) (context : Context) (point : HookPoint) :
    Except Failure String := do
  let fragments ← (answers point).mapM fun answer => answer context
  return stack (fragments.filterMap id)

/-- The text of a page, with all fragments. -/
def pageText (answers : HookAnswers) (context : Context) : Except Failure String := do
  let text ← content context
  let fragments ← HookPoint.all.mapM fun point => do
    let fragment ← inserted answers context point
    return (point, fragment)
  return compose context text fun point => (fragments.lookup point).getD ""

section Hooks

variable {renderer : Renderer Observed} {answers : HookAnswers}

theorem fragment_run (answersHooks : AnswersHooks renderer answers)
    (context : Context) (point : HookPoint) :
    (fragment context point).run renderer = (inserted answers context point, renderer) := by
  have unfolded : (fragment context point).run renderer =
      ((renderer.hooks.snapshot point).mapM (fun listener => listen (listener context)) >>=
        fun answers => pure (stack (answers.filterMap id))).run
          { renderer with hooks := renderer.hooks.dropOnce point } :=
    rfl
  have each : List.Forall₂
      (fun listener answer =>
        (listen (listener context)).run renderer = (answer context, renderer))
      (renderer.hooks.snapshot point) (answers point) := by
    refine (answersHooks.answered point).imp fun listener answer answers => ?_
    rw [listen_run, answers]
  rw [unfolded, Hooks.dropOnce_eq (answersHooks.kept point), run_bind,
    run_mapM_of_forall₂ each, inserted]
  cases (answers point).mapM fun answer => answer context <;> rfl

/-- The text of a page is the one that its listeners make of it, and nothing else changes. -/
theorem renderPage_run (answersHooks : AnswersHooks renderer answers) (page : Page) :
    (renderPage page).run renderer =
      (pageText answers
          { page, options := renderer.options, directory := renderer.disk.workingDirectory },
        renderer) := by
  rw [renderPage, run_bind, run_get]
  simp only
  generalize
    ({ page, options := renderer.options, directory := renderer.disk.workingDirectory } : Context) =
      context
  have each : List.Forall₂
      (fun asked point =>
        ((do let text ← fragment context asked
             return (asked, text)) : Rendering Observed (HookPoint × String)).run renderer =
          ((do let text ← inserted answers context point
               return (point, text)), renderer))
      HookPoint.all HookPoint.all := by
    rw [List.forall₂_same]
    intro point _
    rw [run_bind, fragment_run answersHooks]
    cases inserted answers context point <;> rfl
  rw [run_bind, run_liftM, pageText]
  cases content context with
  | error failure => rfl
  | ok text =>
      simp only [run_bind, run_mapM_of_forall₂ each]
      generalize HookPoint.all.mapM (fun point => do
        let fragment ← inserted answers context point
        return (point, fragment)) = found
      cases found <;> rfl

end Hooks

/-! ## Events -/

/-- What a listener answers to an event. -/
abbrev EventAnswer := Occasion → Except Failure (Option String)

/-- Listeners answer as given, whatever they observe. -/
def Answer (listeners : List (EventListener Observed)) (answers : List EventAnswer) : Prop :=
  List.Forall₂
    (fun listener answer => ∀ occasion observed,
      ((listener occasion).run observed).1 = answer occasion)
    listeners answers

/-- The listeners of the events answer as given, and each is told of every event. -/
structure AnswersEvents (renderer : Renderer Observed) (answers : RenderEvent → List EventAnswer) :
    Prop where
  kept : ∀ event, ∀ record ∈ renderer.events.registrations event, record.once = false
  answered : ∀ event, Answer (renderer.events.snapshot event) (answers event)

/-- A page with the contents that a listener answered with, if it did. -/
def Page.answered (page : Page) (answer : Option String) : Page :=
  { page with contents := answer.getD page.contents }

/-- What an event is about after a listener has answered. -/
def Occasion.answered (occasion : Occasion) (answer : Option String) : Occasion :=
  match occasion with
  | run project out => .run project out
  | page current => .page (current.answered answer)

/-- What listeners have observed after an event was announced to them: one after the other, up to
the first that fails. -/
def hear : List (EventListener Observed) → Occasion → Observed → Observed
  | [], _, observed => observed
  | listener :: listeners, occasion, observed =>
    match (listener occasion).run observed with
    | (.ok answer, observed) => hear listeners (occasion.answered answer) observed
    | (.error _, observed) => observed

/-- A page after listeners have rewritten its contents in turn. -/
def rewritten (answers : List EventAnswer) (page : Page) : Except Failure Page :=
  answers.foldlM (fun page answer => do return page.answered (← answer (.page page))) page

section Events

variable {renderer : Renderer Observed} {listeners : List (EventListener Observed)}
  {answers : List EventAnswer}

theorem rewritten_run (answer : Answer listeners answers) (page : Page) (observed : Observed) :
    (listeners.foldlM (fun (page : Page) (listener : EventListener Observed) => (do
        let answer ← listen (listener (.page page))
        return { page with contents := answer.getD page.contents } : Rendering Observed Page))
          page).run
          { renderer with observed } =
      (rewritten answers page,
        { renderer with observed := hear listeners (.page page) observed }) := by
  induction answer generalizing page observed with
  | nil => rfl
  | @cons listener reply listeners replies first _ inductionHypothesis =>
      have replied := first (.page page) observed
      rw [List.foldlM_cons, run_bind, run_bind, listen_run, rewritten, List.foldlM_cons, hear]
      simp only
      rcases ran : (listener (.page page)).run observed with ⟨outcome, after⟩
      rw [ran] at replied
      simp only at replied
      rw [← replied]
      cases outcome with
      | error failure => rfl
      | ok answer => exact inductionHypothesis (page.answered answer) after

theorem told_run (answer : Answer listeners answers) {project : Project} {out : Path}
    (succeed : ∀ answer ∈ answers, ∃ reply, answer (.run project out) = .ok reply)
    (observed : Observed) :
    (forIn listeners PUnit.unit fun listener _ => (do
        discard (listen (listener (.run project out)))
        pure (ForInStep.yield PUnit.unit) : Rendering Observed _)).run { renderer with observed } =
      (.ok PUnit.unit,
        { renderer with observed := hear listeners (.run project out) observed }) := by
  induction answer generalizing observed with
  | nil => rfl
  | @cons listener reply listeners replies first _ inductionHypothesis =>
      obtain ⟨told, replied⟩ := succeed reply List.mem_cons_self
      have answered := first (.run project out) observed
      have rest := inductionHypothesis fun other member =>
        succeed other (List.mem_cons_of_mem reply member)
      have discarded : (discard (listen (listener (.run project out)))).run
            { renderer with observed } =
          (.ok PUnit.unit,
            { renderer with observed := ((listener (.run project out)).run observed).2 }) := by
        have unfolded :
            (discard (listen (listener (.run project out))) : Rendering Observed PUnit) =
              listen (listener (.run project out)) >>= fun _ => pure PUnit.unit := rfl
        rw [unfolded, run_bind, listen_run]
        simp only
        rw [answered, replied]
        rfl
      rw [List.forIn_cons, run_bind, run_bind, discarded, hear]
      simp only [run_pure]
      rw [rest]
      rcases ran : (listener (.run project out)).run observed with ⟨outcome, after⟩
      rw [ran] at answered
      simp only at answered
      rw [answered, replied]
      rfl

end Events

/-! ## Traces -/

/-- An event and what it is about. -/
abbrev Emission := RenderEvent × Occasion

/-- What the listeners of a renderer have observed after the events of a trace. -/
def heard (renderer : Renderer Observed) (trace : List Emission) (observed : Observed) : Observed :=
  trace.foldl (fun observed emission =>
    hear (renderer.events.snapshot emission.1) emission.2 observed) observed

section Traces

variable {renderer : Renderer Observed} {answers : RenderEvent → List EventAnswer}

theorem announcePage_run (answersEvents : AnswersEvents renderer answers)
    (event : RenderEvent) (page : Page) :
    (announcePage event page).run renderer =
      (rewritten (answers event) page,
        { renderer with observed := heard renderer [(event, .page page)] renderer.observed }) := by
  rw [announcePage, run_bind, run_get]
  simp only
  rw [run_set_bind, Hooks.dropOnce_eq (answersEvents.kept event)]
  exact rewritten_run (answersEvents.answered event) page renderer.observed

/-- An event of the whole run is told to all listeners, unless one of them fails. -/
theorem announceRun_run (answersEvents : AnswersEvents renderer answers)
    {event : RenderEvent} {project : Project} {out : Path}
    (succeed : ∀ answer ∈ answers event, ∃ reply, answer (.run project out) = .ok reply) :
    (announceRun event project out).run renderer =
      (.ok (),
        { renderer with
          observed := heard renderer [(event, .run project out)] renderer.observed }) := by
  rw [announceRun, run_bind, run_get]
  simp only
  rw [run_set_bind, Hooks.dropOnce_eq (answersEvents.kept event), run_bind]
  rw [told_run (answersEvents.answered event) succeed]
  rfl

end Traces

/-! ## Pages -/

/-- All listeners, as functions of what they are told. -/
structure Answers where
  hooks : HookAnswers
  events : RenderEvent → List EventAnswer

/-- The listeners of a renderer answer as given. -/
structure AnswersAs (renderer : Renderer Observed) (answers : Answers) : Prop where
  hooks : AnswersHooks renderer answers.hooks
  events : AnswersEvents renderer answers.events

section Production

variable (answers : Answers) (options : Options) (directory : List String)

/-- A page with its text, as it is before the last event of the page. -/
def drafted (page : Page) : Except Failure Page := do
  let page ← rewritten (answers.events .pageBegin) page
  let contents ← pageText answers.hooks { page, options, directory }
  return { page with contents }

theorem drafted_eq (page : Page) :
    drafted answers options directory page =
      match rewritten (answers.events .pageBegin) page with
      | .error failure => .error failure
      | .ok begun =>
        match pageText answers.hooks { page := begun, options, directory } with
        | .error failure => .error failure
        | .ok contents => .ok { begun with contents } := by
  rw [drafted]
  cases rewritten (answers.events .pageBegin) page with
  | error failure => rfl
  | ok begun =>
      simp only
      change (pageText answers.hooks { page := begun, options, directory } >>= fun contents =>
        .ok { begun with contents }) = _
      cases pageText answers.hooks { page := begun, options, directory } <;> rfl

/-- A page with its final contents. -/
def produced (page : Page) : Except Failure Page := do
  let page ← drafted answers options directory page
  rewritten (answers.events .pageEnd) page

/-- The events of a page.  There is no last one where the page has no text. -/
def pageTrace (page : Page) : List Emission :=
  (.pageBegin, .page page) ::
    match drafted answers options directory page with
    | .ok page => [(.pageEnd, .page page)]
    | .error _ => []

end Production

/-- What becomes of a page depends on its listeners, the options and the working directory only. -/
theorem producePage_run {renderer : Renderer Observed} {answers : Answers}
    (answersAs : AnswersAs renderer answers) (page : Page) :
    (producePage page).run renderer =
      (produced answers renderer.options renderer.disk.workingDirectory page,
        { renderer with
          observed := heard renderer
            (pageTrace answers renderer.options renderer.disk.workingDirectory page)
            renderer.observed }) := by
  have hooks (observed : Observed) :
      AnswersHooks { renderer with observed } answers.hooks :=
    ⟨answersAs.hooks.kept, answersAs.hooks.answered⟩
  have events (observed : Observed) :
      AnswersEvents { renderer with observed } answers.events :=
    ⟨answersAs.events.kept, answersAs.events.answered⟩
  rw [producePage, run_bind, announcePage_run answersAs.events, produced, pageTrace, drafted_eq]
  cases rewritten (answers.events .pageBegin) page with
  | error failure => rfl
  | ok begun =>
      simp only
      rw [run_bind, renderPage_run (hooks _)]
      cases pageText answers.hooks
          { page := begun, options := renderer.options,
            directory := renderer.disk.workingDirectory } with
      | error failure => rfl
      | ok contents => exact announcePage_run (events _) .pageEnd _

end Site

end ApiDocs
