import ApiDocs.Proofs.Hooks.DispatchOrder
import ApiDocs.Proofs.Site.Links

/-!
# Insertions into pages

The fragments of listeners are inserted into a page as whole lines, each at the place of its hook
point, and the rest of the page does not depend on them.  A page is cut at the eight places; it is
the same cut for all listeners, and the page is the cut filled with their fragments.
-/

namespace ApiDocs.Site

open ApiDocs.Computation

/-! ## Lines -/

/-- A text as lines of a page; an empty text is no line. -/
def asLines (text : String) : String := if text = "" then "" else text ++ "\n"

@[simp] theorem asLines_empty : asLines "" = "" := rfl

theorem asLines_of_ne {text : String} (nonempty : text ≠ "") : asLines text = text ++ "\n" :=
  if_neg nonempty

/-- Pieces as lines of a page, one below the other. -/
def block (pieces : List String) : String := String.join (pieces.map asLines)

@[simp] theorem block_nil : block [] = "" := rfl

@[simp] theorem block_cons (piece : String) (pieces : List String) :
    block (piece :: pieces) = asLines piece ++ block pieces :=
  String.join_cons

@[simp] theorem block_append (first second : List String) :
    block (first ++ second) = block first ++ block second := by
  rw [block, List.map_append, String.join_append]
  rfl

theorem block_ends (pieces : List String) :
    block pieces = "" ∨ ∃ text, block pieces = text ++ "\n" := by
  induction pieces with
  | nil => exact Or.inl rfl
  | cons piece pieces inductionHypothesis =>
      rw [block_cons]
      rcases inductionHypothesis with empty | ⟨text, ends⟩
      · rw [empty, String.append_empty]
        by_cases isEmpty : piece = ""
        · exact Or.inl (by rw [isEmpty, asLines_empty])
        · exact Or.inr ⟨piece, asLines_of_ne isEmpty⟩
      · exact Or.inr ⟨asLines piece ++ text, by rw [ends, String.append_assoc]⟩

@[simp] theorem stack_nil : stack [] = "" := rfl

theorem stack_cons_empty (pieces : List String) : stack ("" :: pieces) = stack pieces := rfl

theorem stack_of_empty {pieces : List String} (empty : ∀ piece ∈ pieces, piece = "") :
    stack pieces = "" := by
  have noneKept : pieces.filter (fun piece => piece ≠ "") = [] :=
    List.filter_eq_nil_iff.mpr fun piece member => by simp [empty piece member]
  rw [stack, noneKept]
  rfl

theorem stack_cons_of_ne {piece : String} (nonempty : piece ≠ "") (pieces : List String) :
    stack (piece :: pieces) =
      if stack pieces = "" then piece else piece ++ "\n" ++ stack pieces := by
  have kept : stack (piece :: pieces) =
      "\n".intercalate (piece :: pieces.filter fun piece => piece ≠ "") := by
    rw [stack, List.filter_cons_of_pos (by simpa using nonempty)]
  rw [kept, stack]
  cases rest : pieces.filter (fun piece => piece ≠ "") with
  | nil => rfl
  | cons second others =>
      have secondKept : second ∈ pieces.filter fun piece => piece ≠ "" :=
        rest ▸ List.mem_cons_self
      have secondNonempty : second ≠ "" := of_decide_eq_true (List.mem_filter.mp secondKept).2
      have restNonempty : "\n".intercalate (second :: others) ≠ "" := by
        cases others with
        | nil => simpa using secondNonempty
        | cons third more => simp [secondNonempty]
      rw [if_neg restNonempty, String.intercalate_cons_cons]

/-- Pieces that are stacked are a block of lines. -/
theorem asLines_stack (pieces : List String) : asLines (stack pieces) = block pieces := by
  induction pieces with
  | nil => rfl
  | cons piece pieces inductionHypothesis =>
      by_cases isEmpty : piece = ""
      · rw [isEmpty, stack_cons_empty, inductionHypothesis, block_cons, asLines_empty,
          String.empty_append]
      · rw [stack_cons_of_ne isEmpty, block_cons, asLines_of_ne isEmpty, ← inductionHypothesis]
        split
        · rename_i restEmpty
          rw [restEmpty, asLines_empty, String.append_empty, asLines_of_ne isEmpty]
        · rename_i restNonempty
          rw [asLines_of_ne restNonempty, asLines_of_ne (by simp [isEmpty])]
          simp only [String.append_assoc]

/-! ## Places -/

namespace HookPoint

/-- The hook points in the order of their places in a page. -/
def places : List HookPoint :=
  [headBegin, headEnd, bodyBegin, navigationBegin, navigationEnd, contentBegin, contentEnd, bodyEnd]

end HookPoint

/-- A page that is cut at the places of the hook points. -/
structure PageCut where
  /-- What stands before a place, from the place before it on. -/
  before : HookPoint → String
  /-- What stands behind the last place. -/
  closing : String

namespace PageCut

/-- The page with fragments at the places. -/
def filled (cut : PageCut) (fragments : HookPoint → String) : String :=
  String.join (HookPoint.places.map fun point => cut.before point ++ asLines (fragments point)) ++
    cut.closing

/-- The page without fragments. -/
def bare (cut : PageCut) : String := String.join (HookPoint.places.map cut.before) ++ cut.closing

/-- The places are where they should be: at the beginning of a line, directly after the lines that
open the head, the body and the content, directly before the lines that close these, and around
the list of the navigation. -/
structure Placed (cut : PageCut) : Prop where
  lines : ∀ point, cut.before point = "" ∨ ∃ text, cut.before point = text ++ "\n"
  headBegin : ∃ text, cut.before .headBegin = text ++ "<head>\n"
  headEnd : ∃ text, cut.before .bodyBegin = "</head>\n" ++ text
  bodyBegin : ∃ text, cut.before .bodyBegin = text ++ "<body>\n"
  navigation : ∃ items, cut.before .navigationEnd = "<ul>\n" ++ items ++ "</ul>\n"
  contentBegin : ∃ text, cut.before .contentBegin = text ++ "<main class=\"content\">\n"
  contentEnd : ∃ text, cut.before .bodyEnd = "</main>\n" ++ text
  bodyEnd : ∃ text, cut.closing = "</body>\n" ++ text

end PageCut

/-- The lines of a page before a place, from the place before it on. -/
def linesBefore (context : Context) (content : String) : HookPoint → List String
  | .headBegin => ["<!DOCTYPE html>", "<html lang=\"en\">", "<head>"]
  | .headEnd =>
    let assets := escape (context.linkTo assetsAddress)
    [ "<meta charset=\"utf-8\">",
      "<meta name=\"viewport\" content=\"width=device-width, initial-scale=1\">",
      s!"<title>{escape (title context)}</title>",
      s!"<link rel=\"stylesheet\" href=\"{assets}/style.css\">",
      s!"<link rel=\"stylesheet\" href=\"{assets}/highlight.css\">" ]
  | .bodyBegin => ["</head>", "<body>"]
  | .navigationBegin => [header context, "<div class=\"container\">", "<nav class=\"site-nav\">"]
  | .navigationEnd =>
    "<ul>" :: (context.page.project.modules.map (navigationItem context) ++ ["</ul>"])
  | .contentBegin => ["</nav>", "<main class=\"content\">"]
  | .contentEnd => [content]
  | .bodyEnd => ["</main>", "</div>"]

/-- The cut of a page with its content. -/
def pageCut (context : Context) (content : String) : PageCut where
  before point := block (linesBefore context content point)
  closing := block ["</body>", "</html>"]

theorem pageCut_placed (context : Context) (content : String) :
    (pageCut context content).Placed where
  lines point := block_ends (linesBefore context content point)
  headBegin := ⟨block ["<!DOCTYPE html>", "<html lang=\"en\">"], rfl⟩
  headEnd := ⟨block ["<body>"], rfl⟩
  bodyBegin := ⟨block ["</head>"], rfl⟩
  navigation := by
    refine ⟨block (context.page.project.modules.map (navigationItem context)), ?_⟩
    simp only [pageCut, linesBefore, block_cons, block_append, String.append_assoc]
    rfl
  contentBegin := ⟨block ["</nav>"], rfl⟩
  contentEnd := ⟨block ["</div>"], rfl⟩
  bodyEnd := ⟨block ["</html>"], rfl⟩

/-- A page is its cut, filled with the fragments. -/
theorem compose_eq (context : Context) (content : String) (fragments : HookPoint → String) :
    compose context content fragments = (pageCut context content).filled fragments := by
  have nonempty (frame : Frame) : stack frame.lines ≠ "" := by
    rw [Frame.lines, stack_cons_of_ne (by decide)]
    split <;> simp
  rw [compose, Frame.render, ← asLines_of_ne (nonempty _), asLines_stack]
  simp only [Frame.lines, navigation, block_cons, asLines_stack, block_append, block_nil,
    PageCut.filled, HookPoint.places, pageCut, linesBefore, List.map_cons, List.map_nil,
    String.join_cons, String.join_nil, String.append_assoc, String.append_empty]

/-! ## Listeners that insert -/

/-- A listener that answers with a function of the context, as it is registered at a hook point. -/
structure Insertion where
  point : HookPoint
  registration : Registration (Context → Option String)

variable {Observed : Type}

/-- The registration of a listener that answers with a function and does nothing else. -/
def answering (registration : Registration (Context → Option String)) :
    Registration (HookListener Observed) :=
  { listener := fun context => pure (registration.listener context)
    order := registration.order
    once := registration.once }

/-- The registry in which listeners have been registered one after the other. -/
def registry (insertions : List Insertion) : Hooks HookPoint (HookListener Observed) :=
  insertions.foldl
    (fun hooks insertion => hooks.register insertion.point (answering insertion.registration))
    .empty

/-- The listeners at a hook point, each with the time of its registration. -/
def stampedAt (insertions : List Insertion) (point : HookPoint) :
    List (Stamped (Context → Option String)) :=
  (insertions.filter fun insertion => insertion.point = point).zipIdx.map fun entry =>
    { time := entry.2, registration := entry.1.registration }

/-- The fragments that are inserted at a hook point: the answers that hold anything, in dispatch
order, one below the other. -/
def fragmentAt (insertions : List Insertion) (context : Context) (point : HookPoint) : String :=
  stack ((inDispatchOrder (stampedAt insertions point)).filterMap fun stamped =>
    stamped.registration.listener context)

section Registry

variable (insertions : List Insertion) (insertion : Insertion) (point : HookPoint)

theorem stampedAt_distinct : DistinctTimes (stampedAt insertions point) := by
  have times : (stampedAt insertions point).map Stamped.time =
      List.range' 0 (insertions.filter fun insertion => insertion.point = point).length := by
    rw [stampedAt, List.map_map, ← List.zipIdx_map_snd]
    rfl
  rw [DistinctTimes, times]
  exact List.nodup_range'

theorem registry_append :
    (registry (insertions ++ [insertion]) : Hooks HookPoint (HookListener Observed)) =
      (registry insertions).register insertion.point (answering insertion.registration) :=
  List.foldl_append

/-- A registry holds the listeners of a hook point in dispatch order. -/
theorem registrations_registry :
    ((registry insertions).registrations point : List (Registration (HookListener Observed))) =
      (inDispatchOrder (stampedAt insertions point)).map fun stamped =>
        answering stamped.registration := by
  induction insertions using List.reverseRecOn with
  | nil => simp [registry, Hooks.empty, stampedAt, inDispatchOrder]
  | append_singleton insertions insertion inductionHypothesis =>
      rw [registry_append, Hooks.register]
      by_cases here : insertion.point = point
      · subst here
        have stamped : stampedAt (insertions ++ [insertion]) insertion.point =
            stampedAt insertions insertion.point ++
              [⟨(stampedAt insertions insertion.point).length, insertion.registration⟩] := by
          simp [stampedAt, List.filter_append, List.zipIdx_append]
        have latest : ∀ other ∈ stampedAt insertions insertion.point,
            other.time < (stampedAt insertions insertion.point).length := by
          intro other member
          obtain ⟨entry, entryMember, rfl⟩ := List.mem_map.mp member
          rw [stampedAt, List.length_map, List.length_zipIdx]
          exact List.snd_lt_of_mem_zipIdx entryMember
        rw [Hooks.registrations_update_self, inductionHypothesis, stamped,
          inDispatchOrder_append_latest (stampedAt_distinct insertions insertion.point) latest]
        exact (map_insertByOrder (fun stamped : Stamped (Context → Option String) =>
            (answering stamped.registration : Registration (HookListener Observed)))
          Registration.order ⟨_, insertion.registration⟩ _).symm
      · have elsewhere : stampedAt (insertions ++ [insertion]) point =
            stampedAt insertions point := by
          simp [stampedAt, List.filter_append, here]
        rw [Hooks.registrations_update_of_ne _ _ (Ne.symm here), inductionHypothesis, elsewhere]

end Registry

/-! ## Pages with insertions -/

section Pages

variable {renderer : Renderer Observed} {insertions : List Insertion} {point : HookPoint}

/-- Listeners that answer with functions are asked for their fragments, and those that were
registered once are forgotten. -/
theorem fragment_run_of_registrations
    (registered : renderer.hooks.registrations point =
      (registry insertions).registrations point) (context : Context) :
    (fragment context point).run renderer =
      (.ok (fragmentAt insertions context point),
        { renderer with hooks := renderer.hooks.dropOnce point }) := by
  have unfolded : (fragment context point).run renderer =
      ((renderer.hooks.snapshot point).mapM (fun listener => listen (listener context)) >>=
        fun answers => pure (stack (answers.filterMap id))).run
          { renderer with hooks := renderer.hooks.dropOnce point } :=
    rfl
  have asked : List.Forall₂
      (fun listener stamped =>
        (listen (listener context)).run { renderer with hooks := renderer.hooks.dropOnce point } =
          (.ok (stamped.registration.listener context),
            { renderer with hooks := renderer.hooks.dropOnce point }))
      (renderer.hooks.snapshot point) (inDispatchOrder (stampedAt insertions point)) := by
    rw [Hooks.snapshot, registered, registrations_registry, List.map_map,
      List.forall₂_map_left_iff, List.forall₂_same]
    intro stamped _
    exact listen_run _ _
  have answers : (inDispatchOrder (stampedAt insertions point)).mapM
        (fun stamped => Except.ok (stamped.registration.listener context)) =
      (.ok ((inDispatchOrder (stampedAt insertions point)).map fun stamped =>
        stamped.registration.listener context) : Except Failure _) :=
    List.mapM_pure
  rw [unfolded, run_bind, run_mapM_of_forall₂ asked, answers]
  simp only [run_pure, List.filterMap_map, fragmentAt]
  rfl

/-- At places that are all different, the fragments do not depend on which of the others have been
asked for before. -/
theorem fragments_run (renderer : Renderer Observed) {points : List HookPoint}
    (distinct : points.Nodup)
    (registered : ∀ point ∈ points,
      renderer.hooks.registrations point = (registry insertions).registrations point)
    (context : Context) :
    ((points.mapM fun point => do
        let text ← fragment context point
        return (point, text) : Rendering Observed (List (HookPoint × String))).run renderer).1 =
      .ok (points.map fun point => (point, fragmentAt insertions context point)) := by
  induction points generalizing renderer with
  | nil => rfl
  | cons point points inductionHypothesis =>
      obtain ⟨notLater, laterDistinct⟩ := List.nodup_cons.mp distinct
      have here := fragment_run_of_registrations (registered point List.mem_cons_self) context
      have later := inductionHypothesis
        { renderer with hooks := renderer.hooks.dropOnce point } laterDistinct
        (fun other member => by
          have different : other ≠ point := fun same => notLater (same ▸ member)
          exact (Hooks.registrations_update_of_ne _ _ different).trans
            (registered other (List.mem_cons_of_mem point member)))
      have first : ((do
            let text ← fragment context point
            return (point, text)) : Rendering Observed (HookPoint × String)).run renderer =
          (.ok (point, fragmentAt insertions context point),
            { renderer with hooks := renderer.hooks.dropOnce point }) := by
        rw [run_bind_ok here]
        rfl
      rw [List.mapM_cons, run_bind_ok first, run_bind_ok (Prod.ext later rfl)]
      rfl

/-- What listeners are told of a page. -/
def Renderer.contextOf (renderer : Renderer Observed) (page : Page) : Context :=
  { page, options := renderer.options, directory := renderer.disk.workingDirectory }

/-- The text of a page is its cut, filled with the fragments of the listeners. -/
theorem renderPage_registry
    (renderer : Renderer Observed) (insertions : List Insertion) {page : Page} {text : String}
    (written : content (renderer.contextOf page) = .ok text) :
    ((renderPage page).run { renderer with hooks := registry insertions }).1 =
      .ok ((pageCut (renderer.contextOf page) text).filled
        (fragmentAt insertions (renderer.contextOf page))) := by
  have unfolded : Renderer.contextOf { renderer with hooks := registry insertions } page =
      renderer.contextOf page :=
    rfl
  rw [Renderer.contextOf] at unfolded
  generalize renderer.contextOf page = context at unfolded written
  have asked := fragments_run { renderer with hooks := registry insertions }
    (by decide : HookPoint.all.Nodup) (fun _ _ => rfl) context
  have found : (fun point => (((HookPoint.all.map fun point =>
      (point, fragmentAt insertions context point)).lookup point).getD "")) =
        fragmentAt insertions context := by
    funext point
    cases point <;> rfl
  rw [renderPage, run_bind, run_get]
  simp only [unfolded]
  rw [run_bind, run_liftM, written]
  simp only
  rw [run_bind_ok (Prod.ext asked rfl), run_pure, found, compose_eq]

/-- What is inserted at a place depends on the listeners of its hook point only. -/
theorem fragmentAt_congr {others : List Insertion}
    (same : (insertions.filter fun insertion => insertion.point = point) =
      others.filter fun insertion => insertion.point = point) (context : Context) :
    fragmentAt insertions context point = fragmentAt others context point := by
  rw [fragmentAt, fragmentAt, stampedAt, stampedAt, same]

/-- Listeners without an answer, or with an empty one, insert nothing. -/
theorem fragmentAt_of_silent {context : Context}
    (silent : ∀ insertion ∈ insertions,
      (insertion.registration.listener context).getD "" = "") (point : HookPoint) :
    fragmentAt insertions context point = "" := by
  apply stack_of_empty
  intro piece member
  obtain ⟨stamped, stampedMember, answered⟩ := List.mem_filterMap.mp member
  obtain ⟨entry, entryMember, rfl⟩ := List.mem_map.mp (mem_inDispatchOrder.mp stampedMember)
  have insertionMember : entry.1 ∈ insertions :=
    List.mem_of_mem_filter (List.fst_mem_of_mem_zipIdx entryMember)
  have empty := silent entry.1 insertionMember
  rw [answered] at empty
  exact empty

theorem filled_of_empty (cut : PageCut) {fragments : HookPoint → String}
    (empty : ∀ point, fragments point = "") :
    cut.filled fragments = cut.bare := by
  have noLines : (fun point => cut.before point ++ asLines (fragments point)) = cut.before := by
    funext point
    rw [empty point, asLines_empty, String.append_empty]
  rw [PageCut.filled, noLines, PageCut.bare]

end Pages

/-- Fragments are pure insertions.  Every page of a project has a cut, with the places where they
should be, such that the page without listeners is the cut itself and the page with any listeners
is the cut filled with their fragments.  What is inserted at one place does not depend on the
listeners of other hook points, and listeners that have nothing to insert change nothing. -/
theorem renderPage_inserts
    {project : Project} (shaped : project.Shaped) {page : Page} (member : page ∈ pages project)
    (renderer : Renderer Observed) :
    ∃ cut : PageCut, cut.Placed ∧
      ((renderPage page).run { renderer with hooks := .empty }).1 = .ok cut.bare ∧
      (∀ insertions, ((renderPage page).run { renderer with hooks := registry insertions }).1 =
        .ok (cut.filled (fragmentAt insertions (renderer.contextOf page)))) ∧
      (∀ insertions others : List Insertion, ∀ point,
        (insertions.filter fun insertion => insertion.point = point) =
            (others.filter fun insertion => insertion.point = point) →
          fragmentAt insertions (renderer.contextOf page) point =
            fragmentAt others (renderer.contextOf page) point) ∧
      ∀ insertions : List Insertion,
        (∀ insertion ∈ insertions,
          (insertion.registration.listener (renderer.contextOf page)).getD "" = "") →
        ((renderPage page).run { renderer with hooks := registry insertions }).1 =
          ((renderPage page).run { renderer with hooks := .empty }).1 := by
  obtain ⟨text, written⟩ := content_ok shaped (renderer.contextOf page)
    (place_mem_of_mem_pages member)
  have filled := fun insertions => renderPage_registry renderer insertions written
  have bare : ((renderPage page).run { renderer with hooks := .empty }).1 =
      .ok (pageCut (renderer.contextOf page) text).bare := by
    rw [← filled_of_empty _ (fragmentAt_of_silent (List.forall_mem_nil _))]
    exact filled []
  refine ⟨pageCut (renderer.contextOf page) text, pageCut_placed _ _, bare, filled, ?_, ?_⟩
  · exact fun insertions others point same => fragmentAt_congr same _
  · intro insertions silent
    rw [bare, filled, filled_of_empty _ (fragmentAt_of_silent silent)]

/-- Two listeners at the end of the body, the second of which comes first, and one without an
answer. -/
def footers : List Insertion :=
  [ ⟨.bodyEnd, { listener := fun _ => some "later", order := 5, once := false }⟩,
    ⟨.bodyEnd,
      { listener := fun context => some context.page.address, order := 0, once := true }⟩,
    ⟨.headEnd, { listener := fun _ => none, order := 0, once := false }⟩ ]

theorem renderPage_inserts_footers :
    quotedProject.Shaped ∧ ∀ page ∈ pages quotedProject, ∃ cut : PageCut, cut.Placed ∧
      ((renderPage page).run bareRenderer).1 = .ok cut.bare ∧
      ((renderPage page).run { bareRenderer with hooks := registry footers }).1 =
        .ok (cut.filled fun point =>
          if point = .bodyEnd then stack [page.address, "later"] else "") := by
  refine ⟨quotedProject_shaped, fun page member => ?_⟩
  obtain ⟨cut, placed, bare, filled, _⟩ :=
    renderPage_inserts quotedProject_shaped member bareRenderer
  have fragments : fragmentAt footers (bareRenderer.contextOf page) =
      fun point => if point = .bodyEnd then stack [page.address, "later"] else "" := by
    funext point
    cases point <;>
      simp [fragmentAt, inDispatchOrder, stampedAt, footers, List.mergeSort, Stamped.Precedes,
        Renderer.contextOf]
  exact ⟨cut, placed, bare, fragments ▸ filled footers⟩

end ApiDocs.Site
