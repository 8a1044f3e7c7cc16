import ApiDocs.Proofs.Computation
import ApiDocs.Proofs.Files.Changes
import ApiDocs.Proofs.Files.Names
import ApiDocs.Proofs.Site.Listings
import ApiDocs.Site.Render

/-!
# What rendering writes

However a run ends, the files it changes are pages, style sheets and what it clears before the
first page.
-/

namespace ApiDocs.Site

open ApiDocs.Computation

variable {Observed : Type}

/-! ## Addresses -/

theorem addressOf?_endsWith {kind : Kind} {fullName address : String}
    (found : addressOf? kind fullName = some address) :
    address.endsWith ".html" = true := by
  cases kind with
  | moduleFile | classDefinition =>
      obtain rfl := Option.some.inj found
      exact endsWith_append _ _
  | _ => cases found

theorem address_endsWith {project : Project} {page : Page} (member : page ∈ pages project) :
    page.address.endsWith ".html" = true := by
  rcases List.mem_cons.mp member with rfl | declared
  · exact endsWith_append "index" ".html"
  · obtain ⟨place, _, found⟩ := List.mem_filterMap.mp declared
    obtain ⟨_, _, _, address⟩ := place_of_pageOf? found
    exact addressOf?_endsWith address

/-! ## Places that rendering does not write to -/

/-- A place with neither a page nor a style sheet. -/
structure NotWritten (place : List String) : Prop where
  noPage : ¬ EndsIn ".html" place
  noSheet : ¬ EndsIn ".css" place

theorem endsIn_resolve
    {ending : String} {path : Path}
    (ends : EndsIn ending path.parts)
    (notDots : ¬ "..".endsWith ending = true)
    (disk : Disk) :
    EndsIn ending (disk.resolve path) := by
  obtain ⟨name, last, nameEnds⟩ := ends
  refine ⟨name, Disk.getLast?_resolve last ?_ disk, nameEnds⟩
  rintro rfl
  exact notDots nameEnds

theorem endsIn_child (path : Path) {name ending : String} (ends : name.endsWith ending = true) :
    EndsIn ending (path.child name).parts :=
  ⟨name, List.getLast?_concat, ends⟩

theorem endsIn_join
    {path : Path} {ending : String}
    (ends : EndsIn ending path.parts)
    (base : Path) :
    EndsIn ending (base.join path).parts := by
  rw [Path.join]
  split
  · exact ends
  · exact ends.append base.parts

/-! ## Steps of a run -/

/-- A relation between states that every step of a run keeps to once the output directory is
there: listeners only observe, messages are added, directories are made, and what is written is a
page or a style sheet. -/
structure Admits (relation : Renderer Observed → Renderer Observed → Prop) : Prop where
  trans : ∀ {first second third}, relation first second → relation second third →
    relation first third
  listens : ∀ {before after}, after.disk = before.disk → after.logger = before.logger →
    relation before after
  logs : ∀ renderer level message,
    relation renderer { renderer with logger := renderer.logger.log level message }
  makes : ∀ {renderer path mayExist disk},
    renderer.disk.makeDirectories path mayExist = .ok disk →
      relation renderer { renderer with disk }
  writes : ∀ {renderer path content disk},
    EndsIn ".html" path.parts ∨ EndsIn ".css" path.parts →
      renderer.disk.write path content = .ok disk → relation renderer { renderer with disk }

theorem Admits.refl
    {relation : Renderer Observed → Renderer Observed → Prop}
    (admits : Admits relation)
    (renderer : Renderer Observed) :
    relation renderer renderer :=
  admits.listens rfl rfl

/-- What is done with a page that was produced. -/
def storePage (out : Path) (produced : Page) : Rendering Observed Unit := do
  let target := out.join (Path.ofString produced.address)
  onDisk fun disk => disk.makeDirectories target.parent true
  writeText target produced.contents

section Pages

variable {renderer after : Renderer Observed} {page produced : Page}

theorem announcePage_address
    {event : RenderEvent} {announced : Page}
    (returns : Returns (announcePage event page) renderer announced after) :
    announced.address = page.address := by
  obtain ⟨_, _, _, announces⟩ := returns_bind (returns_get_bind returns)
  refine returns_foldlM (fun current => current.address = page.address) ?_ rfl announces
  intro current listener before result after same stepReturns
  obtain ⟨answer, _, _, answers⟩ := returns_bind stepReturns
  rw [(returns_pure answers).1]
  exact same

theorem producePage_address
    (returns : Returns (producePage page) renderer produced after) :
    produced.address = page.address := by
  obtain ⟨begun, _, begins, returns⟩ := returns_bind returns
  obtain ⟨contents, _, _, ends⟩ := returns_bind returns
  have endAddress := announcePage_address ends
  have beginAddress := announcePage_address begins
  exact endAddress.trans beginAddress

theorem writePage_of_produced
    (out : Path)
    (produces : (producePage page).run renderer = (.ok produced, after)) :
    (writePage out page).run renderer = (storePage out produced).run after := by
  have found : (some <$> producePage page : Rendering Observed (Option Page)).run renderer =
      (.ok (some produced), after) := by
    have unfolded : (some <$> producePage page : Rendering Observed (Option Page)) =
        producePage page >>= fun produced => pure (some produced) := rfl
    rw [unfolded, run_bind, produces]
    rfl
  rw [writePage, run_bind, run_tryCatch, found]
  rfl

/-- A page that cannot be produced is reported and left out. -/
theorem writePage_of_failed
    {failure : Failure} (out : Path)
    (fails : (producePage page).run renderer = (.error failure, after)) :
    (writePage out page).run renderer =
      (.ok (),
        { after with
          logger := after.logger.error
            s!"Failed to render {page.address}: {failure.message}" }) := by
  have failed : (some <$> producePage page : Rendering Observed (Option Page)).run renderer =
      (.error failure, after) := by
    have unfolded : (some <$> producePage page : Rendering Observed (Option Page)) =
        producePage page >>= fun produced => pure (some produced) := rfl
    rw [unfolded, run_bind, fails]
  rw [writePage, run_bind, run_tryCatch, failed]
  rfl

end Pages

section Ends

variable {relation : Renderer Observed → Renderer Observed → Prop} (admits : Admits relation)
  {renderer : Renderer Observed}
include admits

/-! ### Listeners -/

theorem listen_ends {Answer : Type} (action : Listening Observed Answer) :
    Ends relation (listen action) renderer := by
  apply ends_get_bind
  refine ends_bind admits.trans (ends_set (admits.listens rfl rfl)) fun _ => ?_
  split
  · exact ends_pure admits.refl _
  · exact ends_throw admits.refl _

theorem fragment_ends (context : Context) (point : HookPoint) :
    Ends relation (fragment context point) renderer := by
  apply ends_get_bind
  refine ends_bind admits.trans (ends_set (admits.listens rfl rfl)) fun _ => ?_
  refine ends_bind admits.trans ?_ fun _ => ends_pure admits.refl _
  exact ends_mapM admits.refl admits.trans fun listener _ =>
    listen_ends admits (listener context)

theorem announceRun_ends (event : RenderEvent) (project : Project) (out : Path) :
    Ends relation (announceRun event project out) renderer := by
  apply ends_get_bind
  refine ends_bind admits.trans (ends_set (admits.listens rfl rfl)) fun _ => ?_
  refine ends_bind admits.trans ?_ fun _ => ends_pure admits.refl _
  refine ends_forIn admits.refl admits.trans fun listener _ state => ?_
  refine ends_bind admits.trans ?_ fun _ => ends_pure admits.refl _
  exact ends_discard (listen_ends admits _)

theorem announcePage_ends (event : RenderEvent) (page : Page) :
    Ends relation (announcePage event page) renderer := by
  apply ends_get_bind
  refine ends_bind admits.trans (ends_set (admits.listens rfl rfl)) fun _ => ?_
  refine ends_foldlM admits.refl admits.trans (fun page listener state => ?_) page
  exact ends_bind admits.trans (listen_ends admits _) fun _ => ends_pure admits.refl _

/-! ### Pages -/

theorem renderPage_ends (page : Page) :
    Ends relation (renderPage page) renderer := by
  apply ends_get_bind
  refine ends_bind admits.trans (ends_liftM admits.refl _) fun _ => ?_
  refine ends_bind admits.trans ?_ fun _ => ends_pure admits.refl _
  refine ends_mapM admits.refl admits.trans fun point _ => ?_
  exact ends_bind admits.trans (fragment_ends admits _ point) fun _ => ends_pure admits.refl _

theorem producePage_ends (page : Page) :
    Ends relation (producePage page) renderer := by
  refine ends_bind admits.trans (announcePage_ends admits .pageBegin page) fun _ => ?_
  refine ends_bind admits.trans (renderPage_ends admits _) fun _ => ?_
  exact announcePage_ends admits .pageEnd _

/-! ### Files -/

omit admits in
theorem onDisk_ends
    {change : Disk → Except FileFault Disk}
    (refl : ∀ renderer, relation renderer renderer)
    (changes : ∀ {disk}, change renderer.disk = .ok disk →
      relation renderer { renderer with disk }) :
    Ends relation (onDisk change) renderer := by
  apply ends_get_bind
  split
  · rename_i disk changed
    exact ends_set (changes changed)
  · exact ends_throw refl _

theorem makeDirectories_ends (path : Path) (mayExist : Bool) :
    Ends relation (onDisk fun disk => disk.makeDirectories path mayExist) renderer :=
  onDisk_ends admits.refl admits.makes

theorem writeText_ends
    {path : Path}
    (isOutput : EndsIn ".html" path.parts ∨ EndsIn ".css" path.parts)
    (text : String) :
    Ends relation (writeText path text) renderer :=
  onDisk_ends admits.refl (admits.writes isOutput)

theorem report_ends (level : Level) (message : String) :
    Ends relation (report level message) renderer :=
  ends_modify (admits.logs renderer level message)

theorem writePage_ends
    {page : Page} (out : Path)
    (isPage : page.address.endsWith ".html" = true) :
    Ends relation (writePage out page) renderer := by
  have produces : Ends relation (producePage page) renderer := producePage_ends admits page
  rw [Ends] at produces ⊢
  rcases ran : (producePage page).run renderer with ⟨outcome, after⟩
  rw [ran] at produces
  cases outcome with
  | error failure =>
      rw [writePage_of_failed out ran]
      exact admits.trans produces (admits.logs after .error _)
  | ok produced =>
      have ends : EndsIn ".html" (out.join (Path.ofString produced.address)).parts := by
        rw [producePage_address ran]
        exact endsIn_join (Path.components_endsIn (by decide) (by decide) isPage) out
      rw [writePage_of_produced out ran]
      have stores : Ends relation (storePage out produced) after :=
        ends_bind admits.trans (makeDirectories_ends admits _ true) fun _ =>
          writeText_ends admits (Or.inl ends) produced.contents
      exact admits.trans produces stores

theorem writePages_ends
    {items : List Page} (out : Path)
    (arePages : ∀ page ∈ items, page.address.endsWith ".html" = true) :
    Ends relation
      (forIn items PUnit.unit fun page _ => do
        writePage out page
        pure (ForInStep.yield PUnit.unit)) renderer := by
  refine ends_forIn admits.refl admits.trans fun page member state => ?_
  exact ends_bind admits.trans (writePage_ends admits out (arePages page member)) fun _ =>
    ends_pure admits.refl _

theorem writeSheet_ends
    {name : String} (assets : Path)
    (isSheet : name.endsWith ".css" = true)
    (text : String) :
    Ends relation (writeText (assets.child name) text) renderer :=
  writeText_ends admits (Or.inr (endsIn_child assets isSheet)) text

theorem writeAssets_ends (out : Path) :
    Ends relation (writeAssets out) renderer := by
  have highlight (text : String) (state : Renderer Observed) :
      Ends relation (writeText ((out.child assetsAddress).child "highlight.css") text) state :=
    writeSheet_ends admits _ (endsWith_append "highlight" ".css") text
  refine ends_bind admits.trans (makeDirectories_ends admits _ true) fun _ => ?_
  refine ends_bind admits.trans
    (writeSheet_ends admits _ (endsWith_append "style" ".css") _) fun _ => ?_
  apply ends_get_bind
  dsimp only
  split
  · exact highlight _ _
  · exact ends_bind admits.trans (report_ends admits _ _) fun _ => highlight _ _

/-- What a run does once the output directory is prepared. -/
theorem writeSite_ends (project : Project) (out : Path) :
    Ends relation (do
      announceRun .renderBegin project out
      writeAssets out
      for page in pages project do
        writePage out page
      announceRun .renderEnd project out) renderer := by
  refine ends_bind admits.trans (announceRun_ends admits _ project out) fun _ => ?_
  refine ends_bind admits.trans (writeAssets_ends admits out) fun _ => ?_
  refine ends_bind admits.trans ?_ fun _ => announceRun_ends admits _ project out
  exact writePages_ends admits out fun page member => address_endsWith member

end Ends

/-! ## The files of other places -/

/-- The files of all places with neither a page nor a style sheet are the same before and
after. -/
def KeepsOthers (before after : Renderer Observed) : Prop :=
  before.disk.Keeps NotWritten after.disk

theorem keepsOthers_admits : Admits (@KeepsOthers Observed) where
  trans first second := Disk.Keeps.trans first second
  listens sameDisk _ := by
    rw [KeepsOthers, sameDisk]
    exact Disk.Keeps.refl _
  logs renderer _ _ := Disk.Keeps.refl renderer.disk
  makes made := Disk.makeDirectories_keeps made
  writes {renderer path _ _} isOutput written := by
    refine Disk.write_keeps ?_ written
    intro notWritten
    rcases isOutput with isPage | isSheet
    · exact notWritten.noPage
        (endsIn_resolve isPage (by rw [endsWith_iff]; decide) renderer.disk)
    · exact notWritten.noSheet
        (endsIn_resolve isSheet (by rw [endsWith_iff]; decide) renderer.disk)

section Clearing

variable {renderer : Renderer Observed}

/-! ## The output directory -/

/-- What a renderer leaves of the files before it writes any: all of them where it refuses, and
otherwise those that are not in the output directory. -/
def cleared (renderer : Renderer Observed) (out : Path) : Disk :=
  match refusal? renderer.environment renderer.disk (renderer.options.textsOf .inputFiles) out with
  | .ok none => renderer.disk.remove (renderer.disk.resolve out)
  | _ => renderer.disk

theorem prepareOutput_keeps (renderer : Renderer Observed) (out : Path) :
    (cleared renderer out).Keeps NotWritten ((prepareOutput out).run renderer).2.disk := by
  have ends : Ends (fun before after => (cleared before out).Keeps NotWritten after.disk)
      (prepareOutput out) renderer := by
    apply ends_get_bind
    rw [Ends, run_bind, cleared]
    cases refusal? renderer.environment renderer.disk
        (renderer.options.textsOf .inputFiles) out with
    | error failure => exact Disk.Keeps.refl renderer.disk
    | ok refused =>
        cases refused with
        | some refusal => exact Disk.Keeps.refl renderer.disk
        | none =>
            have remade (state : Renderer Observed) :
                Ends KeepsOthers (do
                  onDisk fun disk =>
                    disk.makeDirectories (Disk.pathOf (renderer.disk.resolve out)) false
                  return true) state :=
              ends_bind keepsOthers_admits.trans
                (makeDirectories_ends keepsOthers_admits _ false) fun _ =>
                  ends_pure keepsOthers_admits.refl true
            exact remade
              { renderer with disk := renderer.disk.remove (renderer.disk.resolve out) }
  exact ends

/-- However rendering ends, all files are left that are not cleared before the first page, except
for pages and style sheets. -/
theorem render_keeps (renderer : Renderer Observed) (project : Project) (out : Path) :
    (cleared renderer out).Keeps NotWritten ((render project out).run renderer).2.disk := by
  have prepared := prepareOutput_keeps renderer out
  rw [render, run_bind]
  rcases ran : (prepareOutput out).run renderer with ⟨outcome, middle⟩
  rw [ran] at prepared
  cases outcome with
  | error failure => exact prepared
  | ok accepted =>
      refine prepared.trans ?_
      cases accepted with
      | false => exact Disk.Keeps.refl middle.disk
      | true => exact writeSite_ends keepsOthers_admits project out

end Clearing

end ApiDocs.Site
