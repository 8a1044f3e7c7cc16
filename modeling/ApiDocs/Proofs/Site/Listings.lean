import ApiDocs.Proofs.Site.Sections

/-!
# What a site lists

The pages of a project are its index and one page for each module and class.  Together they list
every declaration of the project exactly once.
-/

namespace ApiDocs.Site

/-! ## Pages -/

theorem addressOf?_isSome (kind : Kind) (fullName : String) :
    (addressOf? kind fullName).isSome = hasPage kind := by
  cases kind <;> rfl

theorem pageOf?_isSome (project : Project) (place : Place) :
    (pageOf? project place).isSome = hasPage place.declaration.kind := by
  rw [pageOf?, Option.isSome_map, Place.chain, chainAddress?, addressOf?_isSome]

theorem place_of_pageOf? {project : Project} {place : Place} {page : Page}
    (found : pageOf? project place = some page) :
    page.place = place ∧ page.project = project ∧ page.template = .declaration ∧
      chainAddress? place.chain = some page.address := by
  obtain ⟨address, addressFound, rfl⟩ := Option.map_eq_some_iff.mp found
  exact ⟨rfl, rfl, rfl, addressFound⟩

/-- The pages document the project and its modules and classes, each once. -/
theorem pages_places (project : Project) :
    (pages project).map Page.place =
      project.root ::
        project.descendants.filter fun place => hasPage place.declaration.kind := by
  rw [pages, List.map_cons]
  congr 1
  induction project.descendants with
  | nil =>
      rfl
  | cons place places inductionHypothesis =>
      have isSome := pageOf?_isSome project place
      cases found : pageOf? project place with
      | none =>
          rw [found] at isSome
          rw [List.filterMap_cons_none found, List.filter_cons_of_neg (by simp [← isSome]),
            inductionHypothesis]
      | some page =>
          rw [found] at isSome
          rw [List.filterMap_cons_some found, List.filter_cons_of_pos (by simp [← isSome]),
            List.map_cons, inductionHypothesis, (place_of_pageOf? found).1]

variable {project : Project} {page : Page}

theorem place_mem_of_mem_pages (member : page ∈ pages project) :
    page.place ∈ project.root :: project.descendants := by
  have placeMember := List.mem_map_of_mem (f := Page.place) member
  rw [pages_places] at placeMember
  exact (List.filter_sublist.cons_cons project.root).mem placeMember

theorem mem_pages (member : page ∈ pages project) :
    page.project = project ∧
      (page.template = .index ∧ page.place = project.root ∨
        page.template = .declaration ∧ page.place ∈ project.descendants ∧
          pageOf? project page.place = some page) := by
  rcases List.mem_cons.mp member with rfl | declared
  · exact ⟨rfl, Or.inl ⟨rfl, rfl⟩⟩
  · obtain ⟨place, placeMember, found⟩ := List.mem_filterMap.mp declared
    obtain ⟨rfl, samProject, template, _⟩ := place_of_pageOf? found
    exact ⟨samProject, Or.inr ⟨template, placeMember, found⟩⟩

theorem pages_position_nodup (project : Project) :
    ((pages project).map fun page => page.place.position).Nodup := by
  have all : ((project.root :: project.descendants).map Place.position).Nodup :=
    project.root.position_nodup
  have places := congrArg (List.map Place.position) (pages_places project)
  rw [List.map_map] at places
  rw [show (fun page : Page => page.place.position) = Place.position ∘ Page.place from rfl, places]
  exact all.sublist ((List.filter_sublist.cons_cons project.root).map Place.position)

/-! ## Listings -/

/-- An item in a section of a page. -/
structure Listing where
  page : Page
  part : Section
  item : Place

/-- Everything that the pages of a project list, in the order of the pages. -/
def listings (project : Project) : List Listing :=
  (pages project).flatMap fun page =>
    (sectionsOf page.place).flatMap fun part => part.items.map fun item => { page, part, item }

variable {listing : Listing} {item : Place}

theorem mem_listings :
    listing ∈ listings project ↔
      listing.page ∈ pages project ∧ listing.part ∈ sectionsOf listing.page.place ∧
        listing.item ∈ listing.part.items := by
  rw [listings]
  simp only [List.mem_flatMap, List.mem_map]
  constructor
  · rintro ⟨page, pageMember, part, partMember, item, itemMember, rfl⟩
    exact ⟨pageMember, partMember, itemMember⟩
  · rintro ⟨pageMember, partMember, itemMember⟩
    exact ⟨_, pageMember, _, partMember, _, itemMember, rfl⟩

theorem child_of_mem_listings (member : listing ∈ listings project) :
    listing.item ∈ listing.page.place.children := by
  obtain ⟨_, partMember, itemMember⟩ := mem_listings.mp member
  obtain ⟨kind, items, _⟩ := items_eq partMember
  rw [items] at itemMember
  exact (mem_childrenOfKind.mp itemMember).1

theorem listings_nodup (project : Project) :
    ((listings project).map Listing.item).Nodup := by
  have items : (listings project).map Listing.item =
      (pages project).flatMap fun page => (sectionsOf page.place).flatMap Section.items := by
    rw [listings, List.map_flatMap]
    simp only [List.map_flatMap, List.map_map]
    congr 1
    funext page
    congr 1
    funext part
    exact List.map_id part.items
  rw [items, List.nodup_flatMap]
  refine ⟨fun page _ => items_nodup page.place, ?_⟩
  refine (List.pairwise_map.mp (pages_position_nodup project)).imp ?_
  -- an item of two pages would be a child of two places
  intro first second different item inFirst inSecond
  have positionOf : ∀ {page : Page},
      item ∈ (sectionsOf page.place).flatMap Section.items →
        ∃ index, item.position = index :: page.place.position := by
    intro page member
    obtain ⟨part, partMember, itemMember⟩ := List.mem_flatMap.mp member
    obtain ⟨kind, items, _⟩ := items_eq partMember
    rw [items] at itemMember
    exact Place.position_of_child (mem_childrenOfKind.mp itemMember).1
  obtain ⟨firstIndex, firstPosition⟩ := positionOf inFirst
  obtain ⟨secondIndex, secondPosition⟩ := positionOf inSecond
  rw [firstPosition] at secondPosition
  exact different (List.cons.inj secondPosition).2

/-- An item occurs in a list at one place only. -/
def OccursOnce {Item : Type} (item : Item) (items : List Item) : Prop :=
  ∃ before after, items = before ++ item :: after ∧ item ∉ before ∧ item ∉ after

theorem occursOnce_of_nodup {Item : Type} {item : Item} {items : List Item}
    (nodup : items.Nodup) (member : item ∈ items) :
    OccursOnce item items := by
  obtain ⟨before, after, rfl⟩ := List.append_of_mem member
  have split := List.nodup_middle.mp nodup
  obtain ⟨absent, _⟩ := List.nodup_cons.mp split
  rw [List.mem_append, not_or] at absent
  exact ⟨before, after, rfl, absent.1, absent.2⟩

/-! ## Contents -/

theorem crumbs_ok (context : Context) {chain : List Declaration}
    (enclose : ∀ declaration ∈ chain, declaration.kind.encloses ≠ []) :
    ∃ links, crumbs context chain = .ok links := by
  induction chain with
  | nil =>
      exact ⟨[], rfl⟩
  | cons declaration chain inductionHypothesis =>
      obtain ⟨links, outer⟩ := inductionHypothesis fun other member =>
        enclose other (List.mem_cons_of_mem declaration member)
      have inner := enclose declaration List.mem_cons_self
      rw [crumbs, outer]
      by_cases isProject : declaration.kind = .project
      · simp only [isProject]
        exact ⟨_, rfl⟩
      · have hasAddress :
            (chainAddress? (declaration :: chain)).isSome = true := by
          rw [chainAddress?, addressOf?_isSome]
          cases kind : declaration.kind <;> simp_all [Kind.encloses, hasPage]
        obtain ⟨address, addressFound⟩ := Option.isSome_iff_exists.mp hasAddress
        simp only [isProject, addressFound]
        exact ⟨_, rfl⟩

theorem breadcrumb_ok (context : Context)
    (enclose : ∀ declaration ∈ context.page.place.ancestors, declaration.kind.encloses ≠ []) :
    ∃ trail, breadcrumb context = .ok trail := by
  obtain ⟨links, crumbsEq⟩ := crumbs_ok context enclose
  rw [breadcrumb, crumbsEq]
  exact ⟨_, rfl⟩

/-- What stands before the sections on the page of a module or class. -/
def declarationOpening (place : Place) (trail : String) : List String :=
  [ trail,
    s!"<h1><span class=\"kind\">{place.declaration.kind.word}</span> {escape place.declaration.name}</h1>",
    if place.declaration.kind = .classDefinition then signature place.declaration else "",
    comment place.declaration.comment,
    source place.declaration ]

theorem declarationContent_eq
    (shaped : project.Shaped) (member : page ∈ pages project)
    (template : page.template = .declaration) (options : Options) (directory : List String) :
    ∃ trail,
      content { page, options, directory } =
        .ok (stack (declarationOpening page.place trail ++
          ["\n".intercalate ((sectionsOf page.place).flatMap
            (Section.lines (Context.mk page options directory).linkToPlace))])) := by
  obtain ⟨_, isIndex | ⟨_, placeMember, _⟩⟩ := mem_pages member
  · rw [isIndex.1] at template
    cases template
  have enclose : ∀ declaration ∈ page.place.ancestors, declaration.kind.encloses ≠ [] := by
    have rootShaped : project.root.tree.Shaped := shaped.tree
    apply rootShaped.ancestors_enclose
    · intro declaration outer
      cases outer
    · exact List.mem_cons_of_mem _ placeMember
  obtain ⟨trail, breadcrumbEq⟩ := breadcrumb_ok (Context.mk page options directory) enclose
  refine ⟨trail, ?_⟩
  rw [content, template]
  simp only [declarationContent, breadcrumbEq]
  rw [sections_eq (shaped.kind_ne_project placeMember)]
  rfl

/-! ## Every declaration once -/

/-- The site of a project documents each declaration at its place, and nothing else. -/
structure Documents (project : Project) : Prop where
  /-- There is one page for the project and one for each module and class. -/
  pages :
    (pages project).map Page.place =
        project.root :: project.descendants.filter (fun place => hasPage place.declaration.kind) ∧
      ((pages project).map Page.place).Nodup
  /-- Every declaration is listed once, on the page of what encloses it, in the section of its
  kind: modules and classes as links, others in full. -/
  listed : ∀ item ∈ project.descendants, ∃ listing,
    OccursOnce listing (listings project) ∧ listing.item = item ∧
      (∀ other ∈ listings project, other.item = item → other = listing) ∧
      item ∈ listing.page.place.children ∧
      item.declaration.kind ∈ listing.page.place.declaration.kind.encloses ∧
      listing.part.title = sectionTitle item.declaration.kind ∧
      listing.part.linked = hasPage item.declaration.kind
  /-- Nothing else is listed. -/
  listedOnly : ∀ listing ∈ listings project, listing.item ∈ project.descendants
  /-- A section keeps the order of the children. -/
  ordered : ∀ page ∈ Site.pages project, ∀ part ∈ sectionsOf page.place,
    part.items.Sublist page.place.children
  /-- What is linked is linked to its own page. -/
  linked : ∀ listing ∈ listings project, listing.part.linked = true →
    ∃ target ∈ Site.pages project, target.place = listing.item ∧
      ∀ options directory,
        let context : Context := { page := listing.page, options, directory }
        context.linkToPlace listing.item = context.linkTo target.address
  /-- Pages are written without failure, and show their sections. -/
  written : ∀ page ∈ Site.pages project, ∀ options directory,
    let context : Context := { page, options, directory }
    let lines := (sectionsOf page.place).flatMap (Section.lines context.linkToPlace)
    content context = .ok ("\n".intercalate (indexOpening project :: lines)) ∧
        page.template = .index ∨
      ∃ trail,
        content context =
            .ok (stack (declarationOpening page.place trail ++ ["\n".intercalate lines])) ∧
          page.template = .declaration

theorem documents (shaped : project.Shaped) : Documents project where
  pages := by
    refine ⟨pages_places project, List.Nodup.of_map Place.position ?_⟩
    rw [List.map_map]
    exact pages_position_nodup project
  listed := by
    intro item member
    obtain ⟨parent, parentMember, itemMember, encloses⟩ := shaped.exists_parent member
    have parentPage : parent ∈ (pages project).map Page.place := by
      rw [pages_places]
      rcases List.mem_cons.mp parentMember with rfl | below
      · exact List.mem_cons_self
      · refine List.mem_cons_of_mem _ (List.mem_filter.mpr ⟨below, ?_⟩)
        have noProject := shaped.kind_ne_project below
        cases kind : parent.declaration.kind <;> simp_all [Kind.encloses, hasPage]
    obtain ⟨page, pageMember, rfl⟩ := List.mem_map.mp parentPage
    obtain ⟨part, partMember, inside, title, linked⟩ := exists_section itemMember encloses
    have listed : (⟨page, part, item⟩ : Listing) ∈ listings project :=
      mem_listings.mpr ⟨pageMember, partMember, inside⟩
    have nodup := listings_nodup project
    refine ⟨⟨page, part, item⟩, occursOnce_of_nodup (List.Nodup.of_map _ nodup) listed, rfl, ?_,
      itemMember, encloses, title, linked⟩
    intro other otherListed same
    exact List.inj_on_of_nodup_map nodup otherListed listed same
  listedOnly := by
    intro listing member
    have pageMember := place_mem_of_mem_pages (mem_listings.mp member).1
    exact project.root.child_mem_below pageMember (child_of_mem_listings member)
  ordered := by
    intro page _ part partMember
    obtain ⟨kind, items, _⟩ := items_eq partMember
    rw [items]
    exact List.filter_sublist
  linked := by
    intro listing member linked
    obtain ⟨pageMember, partMember, itemMember⟩ := mem_listings.mp member
    obtain ⟨kind, items, _, linkedKind⟩ := items_eq partMember
    rw [items] at itemMember
    have itemHasPage : (pageOf? project listing.item).isSome = true := by
      rw [pageOf?_isSome, (mem_childrenOfKind.mp itemMember).2, ← linkedKind, linked]
    obtain ⟨target, found⟩ := Option.isSome_iff_exists.mp itemHasPage
    have below : listing.item ∈ project.descendants :=
      project.root.child_mem_below (place_mem_of_mem_pages pageMember)
        (child_of_mem_listings member)
    obtain ⟨place, _, _, address⟩ := place_of_pageOf? found
    refine ⟨target, List.mem_cons_of_mem _ (List.mem_filterMap.mpr ⟨_, below, found⟩), place, ?_⟩
    intro options directory
    simp only [Context.linkToPlace, address, Option.getD_some]
  written := by
    intro page member options directory
    obtain ⟨sameProject, ⟨template, place⟩ | ⟨template, _, _⟩⟩ := mem_pages member
    · left
      refine ⟨?_, template⟩
      have isProject : page.project.tree.declaration.kind = .project := by
        rw [sameProject]
        exact shaped.root
      rw [content, template]
      simp only
      rw [indexContent_eq _ isProject, sameProject, place]
    · right
      obtain ⟨trail, written⟩ := declarationContent_eq shaped member template options directory
      exact ⟨trail, written, template⟩

end ApiDocs.Site
