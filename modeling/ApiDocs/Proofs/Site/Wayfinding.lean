import ApiDocs.Proofs.Model.Enclosing
import ApiDocs.Proofs.Site.Links

/-!
# Finding the way

Every page lists the modules of its project, and marks the one that it belongs to.  The page of a
declaration starts with its trail: the pages of all that encloses the declaration, from the index
down.
-/

namespace ApiDocs.Site

/-! ## The list of modules -/

/-- The line of a module in the list of modules. -/
def moduleLine (context : Context) (marked : Bool) (item : Place) : String :=
  let mark := if marked then " class=\"current\"" else ""
  s!"<li{mark}><a href=\"{escape (context.linkToPlace item)}\">" ++
    escape item.declaration.name ++ "</a></li>"

/-- The list of modules that consists of certain lines. -/
def moduleList (before after : String) (lines : List String) : String :=
  stack ("<nav class=\"site-nav\">" :: before :: "<ul>" :: (lines ++ ["</ul>", after, "</nav>"]))

section Navigation

variable {context : Context}

theorem navigation_eq (context : Context) (before after : String) :
    navigation context before after =
      moduleList before after
        (context.page.project.modules.map fun item =>
          moduleLine context (isCurrent context item) item) :=
  rfl

theorem isCurrent_iff {item unit : Place}
    (found : unitPosition? context.page.place.chain context.page.place.position =
      some unit.position) :
    isCurrent context item = true ↔ item.position = unit.position := by
  rw [isCurrent, found, beq_iff_eq, Option.some.injEq, eq_comm]

/-- No module is marked where the nearest module or project is the project. -/
theorem map_moduleLine_of_root {modules : List Place}
    (found : unitPosition? context.page.place.chain context.page.place.position = some [])
    (inside : ∀ item ∈ modules, item.position ≠ []) :
    (modules.map fun item => moduleLine context (isCurrent context item) item) =
      modules.map (moduleLine context false) := by
  apply List.map_congr_left
  intro item member
  have unmarked : isCurrent context item = false := by
    rw [isCurrent, found, beq_eq_false_iff_ne]
    intro same
    exact inside item member (Option.some.inj same).symm
  rw [unmarked]

/-- Where positions differ, only the nearest module is marked. -/
theorem map_moduleLine_of_unit {earlier later : List Place} {unit : Place}
    (found : unitPosition? context.page.place.chain context.page.place.position =
      some unit.position)
    (others : ∀ item ∈ earlier ++ later, item.position ≠ unit.position) :
    ((earlier ++ unit :: later).map fun item =>
        moduleLine context (isCurrent context item) item) =
      earlier.map (moduleLine context false) ++
        moduleLine context true unit :: later.map (moduleLine context false) := by
  have unmarked : ∀ item ∈ earlier ++ later,
      moduleLine context (isCurrent context item) item = moduleLine context false item := by
    intro item member
    have notCurrent := mt (isCurrent_iff found).mp (others item member)
    rw [Bool.not_eq_true] at notCurrent
    rw [notCurrent]
  have marked : isCurrent context unit = true := (isCurrent_iff found).mpr rfl
  rw [List.map_append, List.map_cons, marked]
  rw [List.map_congr_left fun item member => unmarked item (List.mem_append_left later member),
    List.map_congr_left fun item member => unmarked item (List.mem_append_right earlier member)]

end Navigation

/-! ## The module that a declaration belongs to -/

section Shaped

variable {project : Project} (shaped : project.Shaped)
include shaped

/-- The nearest module is found from a declaration by climbing. -/
theorem exists_unit {item : Place} (member : item ∈ project.root :: project.descendants)
    (noProject : item.declaration.kind ≠ .project) :
    ∃ unit ∈ project.modules, item ∈ unit :: unit.below ∧
      unitPosition? item.chain item.position = some unit.position := by
  induction item, member using Place.induct_down with
  | outermost => exact absurd shaped.root noProject
  | step parent parentMember inductionHypothesis child childMember =>
      have rootShaped : project.root.tree.Shaped := shaped.tree
      have encloses := (rootShaped.of_mem_below parentMember).kind_of_child childMember
      obtain ⟨index, _, ancestors, position⟩ := Place.mem_children.mp childMember
      by_cases isModule : child.declaration.kind = .moduleFile
      · have unitMember : child ∈ project.modules :=
          shaped.mem_modules_of_kind (project.root.child_mem_below parentMember childMember)
            isModule
        obtain ⟨place, unitPosition⟩ := Project.position_of_mem_modules unitMember
        refine ⟨child, unitMember, List.mem_cons_self, ?_⟩
        rw [Place.chain, unitPosition?, if_pos (Or.inl isModule), unitPosition]
        rfl
      · have inner : parent.declaration.kind ≠ .project := by
          intro isProject
          rw [isProject, Kind.encloses, List.mem_singleton] at encloses
          exact isModule encloses
        obtain ⟨unit, unitMember, inUnit, found⟩ := inductionHypothesis inner
        refine ⟨unit, unitMember,
          List.mem_cons_of_mem _ (unit.child_mem_below inUnit childMember), ?_⟩
        have climbs : ¬ (child.declaration.kind = .moduleFile ∨
            child.declaration.kind = .project) := by
          rw [not_or]
          exact ⟨isModule, noProject⟩
        rw [Place.chain, unitPosition?, if_neg climbs, ancestors, position]
        exact found

omit shaped in
/-- No declaration belongs to two modules. -/
theorem unit_position_unique {item unit other : Place}
    (unitMember : unit ∈ project.modules) (otherMember : other ∈ project.modules)
    (inUnit : item ∈ unit :: unit.below) (inOther : item ∈ other :: other.below) :
    other.position = unit.position := by
  obtain ⟨index, position⟩ := Project.position_of_mem_modules unitMember
  obtain ⟨otherIndex, otherPosition⟩ := Project.position_of_mem_modules otherMember
  have sameLength : other.position.length = unit.position.length := by
    rw [position, otherPosition]
    rfl
  have nested := List.suffix_of_suffix_length_le (Place.position_suffix inOther)
    (Place.position_suffix inUnit) (Nat.le_of_eq sameLength)
  exact nested.eq_of_length sameLength

/-! ## Trails -/

/-- What encloses something has a page, to which its crumb leads. -/
theorem exists_page_of_encloses {parent : Place}
    (member : parent ∈ project.root :: project.descendants)
    (encloses : parent.declaration.kind.encloses ≠ []) :
    ∃ target ∈ pages project, target.place = parent ∧
      crumbAddress? parent.chain = some target.address := by
  rcases List.mem_cons.mp member with rfl | below
  · have isProject : project.root.declaration.kind = .project := shaped.root
    refine ⟨_, List.mem_cons_self, rfl, ?_⟩
    rw [Place.chain, crumbAddress?, if_pos isProject]
  · have noProject := shaped.kind_ne_project below
    have isPage : hasPage parent.declaration.kind = true := by
      cases kind : parent.declaration.kind <;> simp_all [Kind.encloses, hasPage]
    rw [← pageOf?_isSome project] at isPage
    obtain ⟨target, found⟩ := Option.isSome_iff_exists.mp isPage
    obtain ⟨samePlace, _, _, address⟩ := place_of_pageOf? found
    refine ⟨target, List.mem_cons_of_mem _ (List.mem_filterMap.mpr ⟨parent, below, found⟩),
      samePlace, ?_⟩
    rw [Place.chain, crumbAddress?, if_neg noProject]
    exact address

/-- The crumbs of a place are those of the pages on its trail, nearest first. -/
theorem exists_trail (context : Context) {item : Place}
    (member : item ∈ project.root :: project.descendants) :
    ∃ trail : List Page, (∀ target ∈ trail, target ∈ pages project) ∧
      IsTrail project item (trail.map Page.place) ∧
      crumbs context item.ancestors =
        .ok (trail.map fun target =>
          crumb context target.place.declaration target.address).reverse := by
  induction item, member using Place.induct_down with
  | outermost => exact ⟨[], List.forall_mem_nil _, IsTrail.root project, rfl⟩
  | step parent parentMember inductionHypothesis child childMember =>
      obtain ⟨trail, inPages, isTrail, outer⟩ := inductionHypothesis
      have rootShaped : project.root.tree.Shaped := shaped.tree
      have enclosed := (rootShaped.of_mem_below parentMember).kind_of_child childMember
      obtain ⟨target, targetMember, rfl, address⟩ :=
        exists_page_of_encloses shaped parentMember (List.ne_nil_of_mem enclosed)
      refine ⟨trail ++ [target], ?_, ?_, ?_⟩
      · exact List.forall_mem_append.mpr ⟨inPages, List.forall_mem_singleton.mpr targetMember⟩
      · rw [List.map_append]
        exact isTrail.child parentMember childMember
      · obtain ⟨_, _, ancestors, _⟩ := Place.mem_children.mp childMember
        rw [Place.chain] at address ancestors
        rw [ancestors, crumbs_cons, address, outer, List.map_append, List.reverse_append]
        rfl

/-! ## Every page -/

theorem link_of_mem_modules (context : Context) {item : Place} (member : item ∈ project.modules) :
    ∃ target ∈ pages project, target.place = item ∧
      context.linkToPlace item = context.linkTo target.address := by
  obtain ⟨below, isModule⟩ := mem_descendants_of_mem_modules member
  have encloses : item.declaration.kind.encloses ≠ [] := by simp [isModule, Kind.encloses]
  obtain ⟨target, targetMember, samePlace, address⟩ :=
    exists_page_of_encloses shaped (List.mem_cons_of_mem _ below) encloses
  rw [Place.chain, crumbAddress?, if_neg (shaped.kind_ne_project below), ← Place.chain] at address
  refine ⟨target, targetMember, samePlace, ?_⟩
  rw [Context.linkToPlace, address, Option.getD_some]

end Shaped

/-- How a page leads through its project. -/
structure ShowsTheWay (project : Project) (context : Context) : Prop where
  modules : project.modules = project.root.children
  distinct : (project.modules.map Place.position).Nodup
  linked : ∀ item ∈ project.modules, ∃ target ∈ pages project, target.place = item ∧
    context.linkToPlace item = context.linkTo target.address
  unmarked : context.page.template = .index → ∀ before after,
    navigation context before after =
      moduleList before after (project.modules.map (moduleLine context false))
  marked : context.page.template = .declaration → ∃ earlier unit later,
    project.modules = earlier ++ unit :: later ∧
    context.page.place ∈ unit :: unit.below ∧
    (∀ other ∈ earlier ++ later, context.page.place ∉ other :: other.below) ∧
    ∀ before after,
      navigation context before after =
        moduleList before after
          (earlier.map (moduleLine context false) ++
            moduleLine context true unit :: later.map (moduleLine context false))
  trail : context.page.template = .declaration → ∃ trail : List Page,
    (∀ target ∈ trail, target ∈ pages project) ∧
    IsTrail project context.page.place (trail.map Page.place) ∧
    breadcrumb context =
      .ok ("<p class=\"breadcrumb\">" ++
        " / ".intercalate
          (trail.map fun target => crumb context target.place.declaration target.address) ++
        "</p>")
  leads : PlainNames project → ∀ target ∈ pages project,
    follow context.page.address (context.linkTo target.address) = target.address

section Pages

variable {project : Project} {context : Context}

theorem navigation_of_root (shaped : project.Shaped) (sameProject : context.page.project = project)
    (isRoot : context.page.place = project.root) (before after : String) :
    navigation context before after =
      moduleList before after (project.modules.map (moduleLine context false)) := by
  have isProject : project.root.declaration.kind = .project := shaped.root
  rw [navigation_eq, sameProject, map_moduleLine_of_root]
  · rw [isRoot, Place.chain, unitPosition?, if_pos (Or.inr isProject)]
    rfl
  · intro item member
    obtain ⟨index, position⟩ := Project.position_of_mem_modules member
    rw [position]
    exact List.cons_ne_nil index []

theorem navigation_of_descendant
    (shaped : project.Shaped) (sameProject : context.page.project = project)
    (below : context.page.place ∈ project.descendants) :
    ∃ earlier unit later, project.modules = earlier ++ unit :: later ∧
      context.page.place ∈ unit :: unit.below ∧
      (∀ other ∈ earlier ++ later, context.page.place ∉ other :: other.below) ∧
      ∀ before after,
        navigation context before after =
          moduleList before after
            (earlier.map (moduleLine context false) ++
              moduleLine context true unit :: later.map (moduleLine context false)) := by
  obtain ⟨unit, unitMember, inUnit, found⟩ :=
    exists_unit shaped (List.mem_cons_of_mem _ below) (shaped.kind_ne_project below)
  obtain ⟨earlier, later, split⟩ := List.append_of_mem unitMember
  have others : ∀ other ∈ earlier ++ later, other.position ≠ unit.position := by
    have distinct := Project.modules_position_nodup project
    rw [split, List.map_append, List.map_cons, List.nodup_middle, List.nodup_cons,
      ← List.map_append] at distinct
    intro other otherMember same
    exact distinct.1 (same ▸ List.mem_map_of_mem otherMember)
  refine ⟨earlier, unit, later, split, inUnit, ?_, fun before after => ?_⟩
  · intro other otherMember inOther
    have otherModule : other ∈ project.modules := by
      rw [split]
      exact List.perm_middle.mem_iff.mpr (List.mem_cons_of_mem unit otherMember)
    exact others other otherMember (unit_position_unique unitMember otherModule inUnit inOther)
  · rw [navigation_eq, sameProject, split, map_moduleLine_of_unit found others]

theorem breadcrumb_of_crumbs {links : List String}
    (written : crumbs context context.page.place.ancestors = .ok links) :
    breadcrumb context =
      .ok ("<p class=\"breadcrumb\">" ++ " / ".intercalate links.reverse ++ "</p>") := by
  rw [breadcrumb, written]
  rfl

theorem breadcrumb_of_place (shaped : project.Shaped)
    (member : context.page.place ∈ project.root :: project.descendants) :
    ∃ trail : List Page, (∀ target ∈ trail, target ∈ pages project) ∧
      IsTrail project context.page.place (trail.map Page.place) ∧
      breadcrumb context =
        .ok ("<p class=\"breadcrumb\">" ++
          " / ".intercalate
            (trail.map fun target => crumb context target.place.declaration target.address) ++
          "</p>") := by
  obtain ⟨trail, inPages, isTrail, written⟩ := exists_trail shaped context member
  refine ⟨trail, inPages, isTrail, ?_⟩
  rw [breadcrumb_of_crumbs written, List.reverse_reverse]

end Pages

/-- Every page lists all modules in order, each once and linked to its page.  The index marks none;
any other page marks the one module that it documents or that its declaration lies in, and its
breadcrumb links the pages of all that encloses the declaration, from the index down. -/
theorem pages_show_the_way
    {project : Project} (shaped : project.Shaped) {page : Page} (member : page ∈ pages project)
    (options : Options) (directory : List String) :
    ShowsTheWay project { page, options, directory } := by
  obtain ⟨sameProject, templates⟩ := mem_pages member
  have isRoot : page.template = .index → page.place = project.root := by
    intro isIndex
    rcases templates with ⟨_, root⟩ | ⟨isDeclaration, _⟩
    · exact root
    · rw [isIndex] at isDeclaration
      cases isDeclaration
  have below : page.template = .declaration → page.place ∈ project.descendants := by
    intro isDeclaration
    rcases templates with ⟨isIndex, _⟩ | ⟨_, inside, _⟩
    · rw [isDeclaration] at isIndex
      cases isIndex
    · exact inside
  exact
    { modules := shaped.modules_eq
      distinct := Project.modules_position_nodup project
      linked := fun item => link_of_mem_modules shaped _
      unmarked := fun isIndex => navigation_of_root shaped sameProject (isRoot isIndex)
      marked := fun isDeclaration =>
        navigation_of_descendant shaped sameProject (below isDeclaration)
      trail := fun _ => breadcrumb_of_place shaped (place_mem_of_mem_pages member)
      leads := fun plain target targetMember =>
        follow_linkTo _ (isAddress_of_mem_pages shaped plain member)
          (isAddress_of_mem_pages shaped plain targetMember) }

/-- Two modules of one name, the second of which has a class. -/
def namesakes : Project :=
  { readme := ""
    tree := .node (.ofName "" .project)
      [ .node (.ofName "m" .moduleFile) [],
        .node (.ofName "m" .moduleFile) [.node (.ofName "C" .classDefinition) []] ] }

theorem pages_show_the_way_namesakes :
    namesakes.Shaped ∧
      ∃ page ∈ pages namesakes, page.address = "classes/m.C.html" ∧
        page.template = .declaration ∧
        ShowsTheWay namesakes { page, options := Options.initial, directory := [] } ∧
        (namesakes.modules.map
          (isCurrent { page, options := Options.initial, directory := [] })) = [false, true] := by
  have shaped : namesakes.Shaped := by
    have leaf (name : String) (kind : Kind) : (Tree.node (.ofName name kind) []).Shaped :=
      .node (List.forall_mem_nil _) (List.forall_mem_nil _)
    refine ⟨rfl, .node ?_ ?_⟩
    · decide
    · refine List.forall_mem_cons.mpr ⟨leaf "m" .moduleFile, List.forall_mem_singleton.mpr ?_⟩
      refine .node ?_ (List.forall_mem_singleton.mpr (leaf "C" .classDefinition))
      decide
  obtain ⟨page, found⟩ : ∃ page, (pages namesakes)[3]? = some page := ⟨_, rfl⟩
  have member := List.mem_of_getElem? found
  cases found
  exact ⟨shaped, _, member, by decide +kernel, rfl,
    pages_show_the_way shaped member Options.initial [], by decide +kernel⟩

end ApiDocs.Site
