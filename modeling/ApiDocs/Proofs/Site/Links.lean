import ApiDocs.Proofs.Log.Messages
import ApiDocs.Proofs.Site.Addresses
import ApiDocs.Proofs.Site.Listeners
import ApiDocs.Proofs.Site.Pieces
import ApiDocs.Proofs.Site.Writing

/-!
# Links of pages

Every link of a page leads to a page of the same project or to a style sheet, whatever the names of
modules and classes are, as long as they hold no slash.
-/

namespace ApiDocs

/-! ## Enclosing places -/

/-- The declarations from one that encloses a place on are those from a place on. -/
theorem Project.exists_place_of_suffix
    {project : Project} {item : Place} (member : item ∈ project.root :: project.descendants)
    {rest : List Declaration} (suffix : rest <:+ item.chain) (nonempty : rest ≠ []) :
    ∃ above ∈ project.root :: project.descendants, above.chain = rest := by
  induction length : item.ancestors.length using Nat.strongRecOn generalizing item with
  | ind length inductionHypothesis =>
      subst length
      rw [Place.chain, List.suffix_cons_iff] at suffix
      rcases suffix with whole | outer
      · exact ⟨item, member, whole.symm⟩
      · rcases List.mem_cons.mp member with rfl | below
        · exact absurd (List.suffix_nil.mp outer) nonempty
        · obtain ⟨parent, parentMember, itemMember⟩ := project.root.exists_parent below
          obtain ⟨_, _, ancestors, _⟩ := Place.mem_children.mp itemMember
          rw [ancestors] at outer inductionHypothesis
          exact inductionHypothesis parent.ancestors.length (by simp [Place.chain]) parentMember
            outer rfl

namespace Site

open ApiDocs.Computation ApiDocs.Markup

variable {project : Project}

/-! ## Addresses of a project -/

/-- The names of modules and classes hold no slash. -/
def PlainNames (project : Project) : Prop :=
  ∀ place ∈ project.descendants, hasPage place.declaration.kind = true →
    '/' ∉ place.declaration.name.toList

/-- The addresses that a site has something at. -/
def siteAddresses (project : Project) : List String :=
  (pages project).map Page.address ++ ["assets/style.css", "assets/highlight.css"]

/-- An address of names. -/
def IsAddress (address : String) : Prop :=
  ∃ directories file, address = "/".intercalate (directories ++ [file]) ∧
    ∀ name ∈ directories ++ [file], IsName name

theorem isAddress_index : IsAddress indexAddress :=
  ⟨[], "index.html", by decide,
    List.forall_mem_singleton.mpr ⟨by decide, by decide, by decide, by decide⟩⟩

theorem isName_page {fullName : String} (noSlash : '/' ∉ fullName.toList) :
    IsName (fullName ++ ".html") where
  ne_empty := by
    intro empty
    have characters := congrArg String.toList empty
    simp at characters
  ne_dot := by
    intro dot
    have lengths := congrArg (fun name => name.toList.length) dot
    simp at lengths
  ne_dots := by
    intro dots
    have lengths := congrArg (fun name => name.toList.length) dots
    simp at lengths
  no_slash := by
    rw [String.toList_append, List.mem_append, not_or]
    exact ⟨noSlash, by decide⟩

theorem isAddress_of_addressOf? {kind : Kind} {fullName address : String}
    (found : addressOf? kind fullName = some address) (noSlash : '/' ∉ fullName.toList) :
    IsAddress address := by
  have page := isName_page noSlash
  have directory {name : String} (usable : name = "modules" ∨ name = "classes") :
      ∀ part ∈ [name] ++ [fullName ++ ".html"], IsName part := by
    intro part member
    rcases List.mem_append.mp member with first | last
    · rw [List.mem_singleton.mp first]
      rcases usable with rfl | rfl <;>
        exact ⟨by decide, by decide, by decide, by decide⟩
    · rw [List.mem_singleton.mp last]
      exact page
  cases kind with
  | moduleFile =>
      obtain rfl := Option.some.inj found
      refine ⟨["modules"], fullName ++ ".html", ?_, directory (Or.inl rfl)⟩
      rw [String.append_assoc]
      rfl
  | classDefinition =>
      obtain rfl := Option.some.inj found
      refine ⟨["classes"], fullName ++ ".html", ?_, directory (Or.inr rfl)⟩
      rw [String.append_assoc]
      rfl
  | _ => cases found

theorem notMem_intercalate {character : Char} {separator : String} {pieces : List String}
    (separatorFree : character ∉ separator.toList)
    (piecesFree : ∀ piece ∈ pieces, character ∉ piece.toList) :
    character ∉ (separator.intercalate pieces).toList := by
  induction pieces with
  | nil => exact List.not_mem_nil
  | cons first rest inductionHypothesis =>
      have firstFree := piecesFree first List.mem_cons_self
      cases rest with
      | nil => exact firstFree
      | cons second others =>
          have restFree := inductionHypothesis fun piece member =>
            piecesFree piece (List.mem_cons_of_mem first member)
          rw [String.intercalate_cons_cons, String.toList_append, String.toList_append,
            List.mem_append, List.mem_append, not_or, not_or]
          exact ⟨⟨firstFree, separatorFree⟩, restFree⟩

section Shaped

variable (shaped : project.Shaped) (plain : PlainNames project)
include shaped plain

/-- The full names of modules and classes hold no slash. -/
theorem noSlash_fullName {place : Place} (member : place ∈ project.descendants)
    (isPage : hasPage place.declaration.kind = true) :
    '/' ∉ place.fullName.toList := by
  have placeMember : place ∈ project.root :: project.descendants :=
    List.mem_cons_of_mem project.root member
  have rootShaped : project.root.tree.Shaped := shaped.tree
  have enclose := rootShaped.ancestors_enclose (List.forall_mem_nil _) placeMember
  refine notMem_intercalate (by decide) ?_
  intro name nameMember
  rw [List.mem_reverse] at nameMember
  obtain ⟨declaration, kept, rfl⟩ := List.mem_map.mp nameMember
  have passed := List.mem_takeWhile_imp kept
  have noProject : declaration.kind ≠ .project := of_decide_eq_true passed
  have inChain := (List.takeWhile_prefix _).subset kept
  -- each name in the full name is that of something that encloses the place, so of a page
  obtain ⟨before, after, split⟩ := List.append_of_mem inChain
  obtain ⟨above, aboveMember, chain⟩ := Project.exists_place_of_suffix placeMember
    ⟨before, split.symm⟩ (List.cons_ne_nil declaration after)
  obtain ⟨rfl, _⟩ := List.cons.inj chain
  have aboveIsPage : hasPage above.declaration.kind = true := by
    rcases List.mem_cons.mp inChain with same | outer
    · rw [same]
      exact isPage
    · have encloses := enclose _ outer
      cases kind : above.declaration.kind <;> simp_all [Kind.encloses, hasPage]
  rcases List.mem_cons.mp aboveMember with rfl | below
  · exact absurd shaped.root noProject
  · exact plain above below aboveIsPage

theorem isAddress_of_chainAddress? {place : Place} (member : place ∈ project.descendants)
    {address : String} (found : chainAddress? place.chain = some address) :
    IsAddress address := by
  have isPage : hasPage place.declaration.kind = true := by
    rw [← addressOf?_isSome _ place.fullName]
    exact Option.isSome_of_eq_some found
  exact isAddress_of_addressOf? found (noSlash_fullName shaped plain member isPage)

theorem isAddress_of_mem_pages {page : Page} (member : page ∈ pages project) :
    IsAddress page.address := by
  rcases List.mem_cons.mp member with rfl | declared
  · exact isAddress_index
  · obtain ⟨place, placeMember, found⟩ := List.mem_filterMap.mp declared
    obtain ⟨_, _, _, address⟩ := place_of_pageOf? found
    exact isAddress_of_chainAddress? shaped plain placeMember address

end Shaped

theorem mem_addresses_of_chainAddress? {place : Place} (member : place ∈ project.descendants)
    {address : String} (found : chainAddress? place.chain = some address) :
    address ∈ (pages project).map Page.address := by
  have page : pageOf? project place =
      some { address, place, project, template := .declaration, contents := "" } := by
    rw [pageOf?, found]
    rfl
  rw [pages, List.map_cons]
  exact List.mem_cons_of_mem _
    (List.mem_map.mpr ⟨_, List.mem_filterMap.mpr ⟨place, member, page⟩, rfl⟩)

/-! ## Where links lead -/

section Context

variable (context : Context)

theorem follow_linkTo (pageAddress : IsAddress context.page.address)
    {target : String} (targetAddress : IsAddress target) :
    follow context.page.address (context.linkTo target) = target := by
  obtain ⟨directories, file, page, names⟩ := pageAddress
  obtain ⟨targetDirectories, targetFile, rfl, targetNames⟩ := targetAddress
  have directoryNames : ∀ name ∈ directories, IsName name := fun name member =>
    names name (List.mem_append_left _ member)
  have fileName := names file (List.mem_append_right directories List.mem_cons_self)
  rw [Context.linkTo, page,
    directoryOf_intercalate (fun name member => (directoryNames name member).isPart)
      fileName.no_slash,
    absoluteComponents_intercalate directoryNames, absoluteComponents_intercalate targetNames]
  exact follow_between directoryNames fileName.no_slash targetNames
    (List.append_ne_nil_of_right_ne_nil _ (List.cons_ne_nil _ _)) context.directory

theorem follow_linkTo_assets (pageAddress : IsAddress context.page.address)
    {name : String} (isName : IsName name) :
    follow context.page.address (context.linkTo assetsAddress ++ "/" ++ name) =
      "/".intercalate [assetsAddress, name] := by
  obtain ⟨directories, file, page, names⟩ := pageAddress
  have directoryNames : ∀ name ∈ directories, IsName name := fun name member =>
    names name (List.mem_append_left _ member)
  have fileName := names file (List.mem_append_right directories List.mem_cons_self)
  have assetsName : ∀ name ∈ [assetsAddress], IsName name :=
    List.forall_mem_singleton.mpr ⟨by decide, by decide, by decide, by decide⟩
  have assets : absoluteComponents context.directory assetsAddress =
      context.directory ++ [assetsAddress] :=
    absoluteComponents_intercalate assetsName context.directory
  rw [Context.linkTo, page,
    directoryOf_intercalate (fun name member => (directoryNames name member).isPart)
      fileName.no_slash,
    absoluteComponents_intercalate directoryNames, assets]
  exact follow_between_slash directoryNames fileName.no_slash assetsName isName context.directory

end Context

theorem mem_descendants_of_mem_modules {item : Place} (member : item ∈ project.modules) :
    item ∈ project.descendants ∧ item.declaration.kind = .moduleFile := by
  obtain ⟨child, kind⟩ := mem_childrenOfKind.mp member
  exact ⟨project.root.child_mem_below List.mem_cons_self child, kind⟩

section Leads

variable (context : Context) (pageAddress : IsAddress context.page.address)
include pageAddress

theorem linkTo_leads {target : String} (inPages : target ∈ (pages project).map Page.address)
    (isAddress : IsAddress target) :
    follow context.page.address (context.linkTo target) ∈ siteAddresses project := by
  rw [follow_linkTo context pageAddress isAddress]
  exact List.mem_append_left _ inPages

theorem linkToIndex_leads :
    follow context.page.address (context.linkTo indexAddress) ∈ siteAddresses project :=
  linkTo_leads context pageAddress (List.mem_map.mpr ⟨_, List.mem_cons_self, rfl⟩) isAddress_index

theorem linkToSheet_leads {name : String} (isSheet : name ∈ ["/style.css", "/highlight.css"]) :
    follow context.page.address (context.linkTo assetsAddress ++ name) ∈
      siteAddresses project := by
  have sheet {file : String} (isName : IsName file) :
      follow context.page.address (context.linkTo assetsAddress ++ ("/" ++ file)) =
        "/".intercalate [assetsAddress, file] := by
    rw [← String.append_assoc]
    exact follow_linkTo_assets context pageAddress isName
  simp only [List.mem_cons, List.not_mem_nil, or_false] at isSheet
  apply List.mem_append_right
  rcases isSheet with rfl | rfl
  · have isName : IsName "style.css" := ⟨by decide, by decide, by decide, by decide⟩
    exact sheet isName ▸ List.mem_cons_self
  · have isName : IsName "highlight.css" := ⟨by decide, by decide, by decide, by decide⟩
    exact sheet isName ▸ List.mem_cons_of_mem _ List.mem_cons_self

variable (shaped : project.Shaped) (plain : PlainNames project)
include shaped plain

theorem linkToPlace_leads {item : Place} (below : item ∈ project.descendants)
    (isPage : hasPage item.declaration.kind = true) :
    follow context.page.address (context.linkToPlace item) ∈ siteAddresses project := by
  have hasAddress : (chainAddress? item.chain).isSome = true := by
    rw [Place.chain, chainAddress?, addressOf?_isSome]
    exact isPage
  obtain ⟨address, found⟩ := Option.isSome_iff_exists.mp hasAddress
  rw [Context.linkToPlace, found, Option.getD_some]
  exact linkTo_leads context pageAddress (mem_addresses_of_chainAddress? below found)
    (isAddress_of_chainAddress? shaped plain below found)

/-- What encloses the declaration of a page is the project, which is linked by the index, or has a
page. -/
theorem linkToCrumb_leads (placeMember : context.page.place ∈ project.root :: project.descendants)
    {rest : List Declaration} (suffix : rest <:+ context.page.place.ancestors)
    {address : String} (found : crumbAddress? rest = some address) :
    follow context.page.address (context.linkTo address) ∈ siteAddresses project := by
  cases rest with
  | nil => cases found
  | cons declaration chain =>
      rw [crumbAddress?] at found
      split at found
      · obtain rfl := Option.some.inj found
        exact linkToIndex_leads context pageAddress
      · rename_i noProject
        obtain ⟨above, aboveMember, chainEq⟩ := Project.exists_place_of_suffix placeMember
          (suffix.trans (List.suffix_cons _ _)) (List.cons_ne_nil declaration chain)
        rw [← chainEq] at found
        rcases List.mem_cons.mp aboveMember with rfl | below
        · have isRoot : declaration.kind = .project := by
            rw [← (List.cons.inj chainEq).1]
            exact shaped.root
          exact absurd isRoot noProject
        · exact linkTo_leads context pageAddress (mem_addresses_of_chainAddress? below found)
            (isAddress_of_chainAddress? shaped plain below found)

end Leads

/-- The links of a page lead to the pages of its project and to the style sheets. -/
theorem linksTo_siteAddresses
    (shaped : project.Shaped) (plain : PlainNames project)
    {page : Page} (member : page ∈ pages project) (options : Options) (directory : List String) :
    LinksTo (fun link => follow page.address link ∈ siteAddresses project)
      { page, options, directory } := by
  let context : Context := { page, options, directory }
  have pageAddress : IsAddress context.page.address := isAddress_of_mem_pages shaped plain member
  have placeMember := place_mem_of_mem_pages member
  obtain ⟨sameProject, _⟩ := mem_pages member
  exact
    { index := linkToIndex_leads context pageAddress
      modules := fun item itemMember => by
        rw [sameProject] at itemMember
        obtain ⟨below, kind⟩ := mem_descendants_of_mem_modules itemMember
        exact linkToPlace_leads context pageAddress shaped plain below (by rw [kind]; rfl)
      chain := fun rest suffix address found =>
        linkToCrumb_leads context pageAddress shaped plain placeMember suffix found
      classes := fun item itemMember => by
        obtain ⟨child, kind⟩ := mem_childrenOfKind.mp itemMember
        have below : item ∈ project.descendants := project.root.child_mem_below placeMember child
        exact linkToPlace_leads context pageAddress shaped plain below (by rw [kind]; rfl)
      sheets := fun name isSheet => linkToSheet_leads context pageAddress isSheet }

/-! ## Pages without listeners -/

section Quiet

variable {Observed : Type}

/-- Without listeners no fragments are inserted. -/
theorem pageText_of_no_answers (context : Context) :
    pageText (fun _ => []) context =
      (content context).map fun text => compose context text fun _ => "" := by
  have asked : (HookPoint.all.mapM fun point => do
      let fragment ← inserted (fun _ => []) context point
      return (point, fragment) : Except Failure (List (HookPoint × String))) =
        .ok (HookPoint.all.map fun point => (point, "")) :=
    rfl
  have empty : (fun point => ((HookPoint.all.map fun point => (point, "")).lookup point).getD "") =
      fun _ => "" := by
    funext point
    cases point <;> rfl
  rw [pageText, asked]
  cases content context with
  | error failure => rfl
  | ok text =>
      rw [← empty]
      rfl

/-- No listener is registered. -/
structure Quiet (renderer : Renderer Observed) : Prop where
  hooks : ∀ point, renderer.hooks.registrations point = []
  events : ∀ event, renderer.events.registrations event = []

theorem answersHooks_of_no_listeners {renderer : Renderer Observed}
    (noListeners : ∀ point, renderer.hooks.registrations point = []) :
    AnswersHooks renderer fun _ => [] where
  kept := by
    intro point record member
    rw [noListeners point] at member
    cases member
  answered := by
    intro point
    rw [Hooks.snapshot, noListeners point]
    exact List.Forall₂.nil

theorem Quiet.answersEvents {renderer : Renderer Observed} (quiet : Quiet renderer) :
    AnswersEvents renderer fun _ => [] where
  kept := by
    intro event record member
    rw [quiet.events event] at member
    cases member
  answered := by
    intro event
    rw [Hooks.snapshot, quiet.events event]
    exact List.Forall₂.nil

/-- In a project of the usual shape, everything that encloses something can be linked, so every page
has a content. -/
theorem content_ok (shaped : project.Shaped) (context : Context)
    (member : context.page.place ∈ project.root :: project.descendants) :
    ∃ text, content context = .ok text := by
  have rootShaped : project.root.tree.Shaped := shaped.tree
  obtain ⟨trail, written⟩ := breadcrumb_ok context
    (rootShaped.ancestors_enclose (List.forall_mem_nil _) member)
  rw [content]
  split
  · exact ⟨_, rfl⟩
  · rw [declarationContent, written]
    exact ⟨_, rfl⟩

/-- Without listeners, a page is written as fixed tags and as links to where its links lead. -/
theorem renderPage_piece
    (shaped : project.Shaped)
    {page : Page} (member : page ∈ pages project)
    {renderer : Renderer Observed}
    (noListeners : ∀ point, renderer.hooks.registrations point = [])
    {linked : String → Prop}
    (links : LinksTo linked
      { page, options := renderer.options, directory := renderer.disk.workingDirectory }) :
    ∃ text, (renderPage page).run renderer = (.ok text, renderer) ∧ Piece linked text := by
  obtain ⟨text, written⟩ := content_ok shaped
    { page, options := renderer.options, directory := renderer.disk.workingDirectory }
    (place_mem_of_mem_pages member)
  have noFragments (point : HookPoint) : Piece linked ((fun _ => "" : HookPoint → String) point) :=
    .empty
  refine ⟨_, ?_, compose_piece links (content_piece links written) noFragments⟩
  rw [renderPage_run (answersHooks_of_no_listeners noListeners), pageText_of_no_answers, written]
  rfl

/-- No link of a page is dead. -/
theorem renderPage_links
    (shaped : project.Shaped) (plain : PlainNames project)
    {page : Page} (member : page ∈ pages project)
    {renderer : Renderer Observed}
    (noListeners : ∀ point, renderer.hooks.registrations point = []) :
    ∃ text tags, (renderPage page).run renderer = (.ok text, renderer) ∧ Reads text.toList tags ∧
      ∀ tag ∈ tags, ∀ link, ("href", link) ∈ tag.attributes →
        follow page.address (String.ofList (Text.unescape link.toList)) ∈
          siteAddresses project := by
  have links := linksTo_siteAddresses shaped plain member renderer.options
    renderer.disk.workingDirectory
  obtain ⟨text, rendered, tags, reads, areTags⟩ := renderPage_piece shaped member noListeners links
  refine ⟨text, tags, rendered, reads, ?_⟩
  intro tag tagMember link linkMember
  have leadsTo {target : String} (leads : follow page.address target ∈ siteAddresses project)
      (same : link = escape target) :
      follow page.address (String.ofList (Text.unescape link.toList)) ∈
        siteAddresses project := by
    rw [same, escape, String.toList_ofList, Text.unescape_escapeAttribute, String.ofList_toList]
    exact leads
  cases areTags tag tagMember with
  | fixed fixedMember =>
      have noLink : ∀ tag ∈ fixedTags, ∀ pair ∈ tag.attributes, pair.1 ≠ "href" := by
        decide +kernel
      exact absurd rfl (noLink tag fixedMember _ linkMember)
  | member name => simp at linkMember
  | @link target leads =>
      have same : link = escape target := by simpa using linkMember
      exact leadsTo leads same
  | @sheet target leads =>
      have same : link = escape target := by simpa using linkMember
      exact leadsTo leads same

/-! ## Runs without listeners -/

/-- Where nobody listens, nobody listens afterwards, and no error is reported. -/
def ReportsNothing (before after : Renderer Observed) : Prop :=
  Quiet before → Quiet after ∧ after.logger.errors = before.logger.errors

theorem ReportsNothing.refl (renderer : Renderer Observed) : ReportsNothing renderer renderer :=
  fun quiet => ⟨quiet, rfl⟩

theorem ReportsNothing.trans {before middle after : Renderer Observed}
    (first : ReportsNothing before middle) (second : ReportsNothing middle after) :
    ReportsNothing before after := by
  intro quiet
  obtain ⟨middleQuiet, middleErrors⟩ := first quiet
  obtain ⟨afterQuiet, afterErrors⟩ := second middleQuiet
  exact ⟨afterQuiet, afterErrors.trans middleErrors⟩

variable {renderer : Renderer Observed}

theorem onDisk_reportsNothing (change : Disk → Except FileFault Disk) :
    Ends ReportsNothing (onDisk change) renderer := by
  apply ends_get_bind
  split
  · exact ends_set fun quiet => ⟨⟨quiet.hooks, quiet.events⟩, rfl⟩
  · exact ends_throw ReportsNothing.refl _

theorem writeText_reportsNothing (path : Path) (text : String) :
    Ends ReportsNothing (writeText path text) renderer :=
  onDisk_reportsNothing _

theorem report_reportsNothing {level : Level} (noError : level ≠ .error) (message : String) :
    Ends ReportsNothing (report level message) renderer := by
  refine ends_modify fun quiet => ⟨⟨quiet.hooks, quiet.events⟩, ?_⟩
  have counted := renderer.logger.errors_log level message
  rw [if_neg noError, Nat.add_zero] at counted
  exact counted

theorem writeAssets_reportsNothing (out : Path) :
    Ends ReportsNothing (writeAssets out) renderer := by
  refine ends_bind ReportsNothing.trans (onDisk_reportsNothing _) fun _ => ?_
  refine ends_bind ReportsNothing.trans (writeText_reportsNothing _ _) fun _ => ?_
  apply ends_get_bind
  dsimp only
  split
  · exact writeText_reportsNothing _ _
  · exact ends_bind ReportsNothing.trans (report_reportsNothing (by decide) _) fun _ =>
      writeText_reportsNothing _ _

theorem announceRun_reportsNothing (event : RenderEvent) (out : Path) :
    Ends ReportsNothing (announceRun event project out) renderer := by
  intro quiet
  rw [announceRun_run quiet.answersEvents (List.forall_mem_nil _)]
  exact ⟨⟨quiet.hooks, quiet.events⟩, rfl⟩

theorem announcePage_of_quiet (quiet : Quiet renderer) (event : RenderEvent) (page : Page) :
    (announcePage event page).run renderer = (.ok page, renderer) := by
  have nothing : heard renderer [(event, .page page)] renderer.observed = renderer.observed := by
    have nobody : renderer.events.snapshot event = [] := by
      rw [Hooks.snapshot, quiet.events event]
      rfl
    rw [heard, List.foldl_cons, nobody]
    rfl
  rw [announcePage_run quiet.answersEvents, nothing]
  rfl

theorem producePage_of_quiet
    (shaped : project.Shaped) (plain : PlainNames project) (quiet : Quiet renderer)
    {page : Page} (member : page ∈ pages project) :
    ∃ contents, (producePage page).run renderer = (.ok { page with contents }, renderer) := by
  obtain ⟨text, _, rendered, _⟩ := renderPage_links shaped plain member quiet.hooks
  refine ⟨text, ?_⟩
  rw [producePage, run_bind, announcePage_of_quiet quiet]
  simp only
  rw [run_bind, rendered]
  exact announcePage_of_quiet quiet .pageEnd _

theorem writePage_reportsNothing
    (shaped : project.Shaped) (plain : PlainNames project)
    {page : Page} (member : page ∈ pages project) (out : Path) :
    Ends ReportsNothing (writePage out page) renderer := by
  intro quiet
  obtain ⟨contents, produced⟩ := producePage_of_quiet shaped plain quiet member
  rw [writePage_of_produced out produced]
  have stored : Ends ReportsNothing (storePage out { page with contents }) renderer :=
    ends_bind ReportsNothing.trans (onDisk_reportsNothing _) fun _ => writeText_reportsNothing _ _
  exact stored quiet

/-- Rendering a project without listeners reports no error, unless the output directory is
refused. -/
theorem render_reportsNothing
    (shaped : project.Shaped) (plain : PlainNames project) (out : Path)
    (notRefused : ∀ refusal,
      refusal? renderer.environment renderer.disk (renderer.options.textsOf .inputFiles) out ≠
        .ok (some refusal)) :
    Ends ReportsNothing (render project out) renderer := by
  have prepared : Ends ReportsNothing (prepareOutput out) renderer := by
    apply ends_get_bind
    refine ends_bind ReportsNothing.trans (ends_liftM ReportsNothing.refl _) fun returns => ?_
    obtain ⟨decided, rfl⟩ := returns_liftM returns
    split
    · rename_i refusal
      exact absurd decided (notRefused refusal)
    · refine ends_bind ReportsNothing.trans (onDisk_reportsNothing _) fun _ => ?_
      exact ends_bind ReportsNothing.trans (onDisk_reportsNothing _) fun _ =>
        ends_pure ReportsNothing.refl true
  refine ends_bind ReportsNothing.trans prepared fun {accepted middle} _ => ?_
  split
  · refine ends_bind ReportsNothing.trans (announceRun_reportsNothing _ out) fun _ => ?_
    refine ends_bind ReportsNothing.trans (writeAssets_reportsNothing out) fun _ => ?_
    refine ends_bind ReportsNothing.trans ?_ fun _ => announceRun_reportsNothing _ out
    refine ends_forIn ReportsNothing.refl ReportsNothing.trans fun page member state => ?_
    refine ends_bind ReportsNothing.trans ?_ fun _ => ends_pure ReportsNothing.refl _
    exact writePage_reportsNothing shaped plain member out
  · exact ends_pure ReportsNothing.refl _

/-- No link of a site is dead, and rendering reports no error: for every project of the usual shape
whose modules and classes have names without slashes, each page that no listener adds to is read as
tags whose links, followed from the page, lead to a page of the project or to a style sheet. -/
theorem site_has_no_dead_link (shaped : project.Shaped) (plain : PlainNames project) :
    (∀ (renderer : Renderer Observed), ∀ page ∈ pages project,
      (∀ point, renderer.hooks.registrations point = []) →
        ∃ text tags, (renderPage page).run renderer = (.ok text, renderer) ∧
          Reads text.toList tags ∧
            ∀ tag ∈ tags, ∀ link, ("href", link) ∈ tag.attributes →
              follow page.address (String.ofList (Text.unescape link.toList)) ∈
                siteAddresses project) ∧
      ∀ (renderer : Renderer Observed) (out : Path), Quiet renderer →
        (∀ refusal,
          refusal? renderer.environment renderer.disk (renderer.options.textsOf .inputFiles) out ≠
            .ok (some refusal)) →
          ((render project out).run renderer).2.logger.errors = renderer.logger.errors := by
  constructor
  · intro renderer page member noListeners
    exact renderPage_links shaped plain member noListeners
  · intro renderer out quiet notRefused
    exact (render_reportsNothing shaped plain out notRefused quiet).2

end Quiet

/-! ## A module with a class -/

/-- A renderer over an empty directory. -/
def bareRenderer : Renderer Unit :=
  { logger := .new .silent .none
    options := Options.initial
    environment := .bare
    hooks := .empty
    events := .empty
    disk := { tree := .directory [], workingDirectory := [] }
    observed := () }

/-- A class in a module whose name has to be escaped. -/
def quotedProject : Project :=
  { readme := ""
    tree := .node (.ofName "" .project)
      [.node (.ofName "\"a\"&<b>" .moduleFile) [.node (.ofName ".." .classDefinition) []]] }

theorem quotedProject_shaped : quotedProject.Shaped where
  root := rfl
  tree := by
    refine .node (List.forall_mem_singleton.mpr (by decide)) (List.forall_mem_singleton.mpr ?_)
    refine .node (List.forall_mem_singleton.mpr (by decide)) (List.forall_mem_singleton.mpr ?_)
    exact .node (List.forall_mem_nil _) (List.forall_mem_nil _)

theorem site_has_no_dead_link_quoted :
    (∀ page ∈ pages quotedProject, ∃ text tags,
      (renderPage page).run bareRenderer = (.ok text, bareRenderer) ∧
        Reads text.toList tags ∧
          ∀ tag ∈ tags, ∀ link, ("href", link) ∈ tag.attributes →
            follow page.address (String.ofList (Text.unescape link.toList)) ∈
              ["index.html", "modules/\"a\"&<b>.html", "classes/\"a\"&<b>....html",
                "assets/style.css", "assets/highlight.css"]) ∧
      ((render quotedProject (Path.ofString "site")).run bareRenderer).2.logger.errors = 0 := by
  have plain : PlainNames quotedProject := by
    intro place member _
    revert place
    decide +kernel
  have addresses : siteAddresses quotedProject =
      ["index.html", "modules/\"a\"&<b>.html", "classes/\"a\"&<b>....html",
        "assets/style.css", "assets/highlight.css"] := by
    decide +kernel
  obtain ⟨links, errors⟩ := @site_has_no_dead_link quotedProject Unit quotedProject_shaped plain
  rw [addresses] at links
  refine ⟨fun page member => links bareRenderer page member fun _ => rfl, ?_⟩
  refine errors bareRenderer (Path.ofString "site") ⟨fun _ => rfl, fun _ => rfl⟩ ?_
  intro refusal
  have accepted : refusal? bareRenderer.environment bareRenderer.disk
      (bareRenderer.options.textsOf .inputFiles) (Path.ofString "site") = .ok none := by
    rfl
  rw [accepted]
  intro refused
  cases refused

end Site

end ApiDocs
