import ApiDocs.Proofs.Model.Shape
import ApiDocs.Site.Page
import Mathlib.Data.List.Flatten

/-!
# Sections of pages

The page of a place lists the children of the place in sections, one for each kind that the place
encloses.  So in a project of the usual shape every declaration is listed exactly once: on the
page of what encloses it, in the section of its kind.
-/

namespace ApiDocs.Site

/-! ## What a page lists -/

/-- A section of a page: a heading with the items below it, which are linked or shown in full. -/
structure Section where
  title : String
  linked : Bool
  items : List Place

/-- Whether declarations of a kind have pages of their own. -/
def hasPage (kind : Kind) : Bool := kind = .moduleFile || kind = .classDefinition

/-- The sections on the page of a declaration of a kind.  The index is the page of the project. -/
def sectionTable : Kind → List (String × Kind)
  | .project => [("Modules", .moduleFile)]
  | .moduleFile => moduleSections
  | _ => classSections

/-- The title of the section that lists declarations of a kind. -/
def sectionTitle : Kind → String
  | .project => ""
  | .moduleFile => "Modules"
  | .classDefinition => "Classes"
  | .function => "Functions"
  | .method => "Methods"
  | .property => "Properties"
  | .variableBinding => "Variables"

/-- The section that lists the children of one kind. -/
def sectionOf (place : Place) (title : String) (kind : Kind) : Section :=
  { title, linked := hasPage kind, items := place.childrenOfKind kind }

/-- The sections of a place's page that list anything. -/
def sectionsOf (place : Place) : List Section :=
  ((sectionTable place.declaration.kind).map fun entry => sectionOf place entry.1 entry.2).filter
    fun part => !part.items.isEmpty

/-- The lines of a section: links in one list, or one member after the other. -/
def Section.lines (link : Place → String) (part : Section) : List String :=
  s!"<h2>{escape part.title}</h2>" ::
    if part.linked then
      let items := part.items.map fun item => linkItem item.declaration (link item)
      ["<ul>\n" ++ "\n".intercalate items ++ "\n</ul>"]
    else part.items.map fun item => member item.declaration

/-- The kinds of the sections on a page are exactly those that can be listed there. -/
theorem sectionTable_kinds {kind : Kind} (encloses : kind.encloses ≠ []) :
    (sectionTable kind).map Prod.snd = kind.encloses := by
  cases kind <;> first | rfl | exact absurd rfl encloses

theorem title_of_mem_sectionTable {kind : Kind} {entry : String × Kind}
    (member : entry ∈ sectionTable kind) :
    entry.1 = sectionTitle entry.2 := by
  revert member
  revert entry
  cases kind <;> simp [sectionTable, moduleSections, classSections, sectionTitle]

theorem sectionTable_kinds_nodup (kind : Kind) : ((sectionTable kind).map Prod.snd).Nodup := by
  cases kind <;> decide

/-! ## The text of a page -/

/-- A table written out line by line is its sections that list anything. -/
theorem sectionLines_eq
    (place : Place) (link : Place → String) (title : String) {kind : Kind}
    (noModule : kind ≠ .moduleFile) :
    sectionLines place link title kind =
      ([sectionOf place title kind].filter fun part => !part.items.isEmpty).flatMap
        (Section.lines link) := by
  cases members : place.childrenOfKind kind with
  | nil =>
      simp [sectionLines, sectionOf, members]
  | cons first rest =>
      have kept : ([sectionOf place title kind].filter fun part => !part.items.isEmpty) =
          [sectionOf place title kind] := by
        simp [sectionOf, members]
      have linked : hasPage kind = decide (kind = .classDefinition) := by
        simp [hasPage, noModule]
      rw [kept, List.flatMap_singleton, Section.lines, sectionOf, members, linked, sectionLines,
        members]
      simp only [decide_eq_true_eq]

theorem sections_eq
    {place : Place} (noProject : place.declaration.kind ≠ .project) (link : Place → String) :
    sections place
        (if place.declaration.kind = .moduleFile then moduleSections else classSections) link =
      "\n".intercalate ((sectionsOf place).flatMap (Section.lines link)) := by
  have table : (if place.declaration.kind = .moduleFile then moduleSections else classSections) =
      sectionTable place.declaration.kind := by
    cases h : place.declaration.kind <;> first | rfl | exact absurd h noProject
  have noModules : ∀ entry ∈ sectionTable place.declaration.kind, entry.2 ≠ .moduleFile := by
    rw [← table]
    split <;> simp [moduleSections, classSections]
  rw [sections, table, sectionsOf]
  congr 1
  generalize sectionTable place.declaration.kind = entries at noModules
  induction entries with
  | nil =>
      rfl
  | cons entry entries inductionHypothesis =>
      have split : ∀ part : Section, ∀ parts : List Section,
          (part :: parts).filter (fun part => !part.items.isEmpty) =
            [part].filter (fun part => !part.items.isEmpty) ++
              parts.filter fun part => !part.items.isEmpty :=
        fun part parts => List.filter_append [part] parts
      rw [List.flatMap_cons, List.map_cons, split, List.flatMap_append,
        sectionLines_eq place link entry.1 (noModules entry List.mem_cons_self),
        inductionHypothesis fun other member => noModules other (List.mem_cons_of_mem _ member)]

/-- What the index says before its list of modules. -/
def indexOpening (project : Project) : String :=
  if project.readme = "" then s!"<h1>{escape (projectTitle project.name)}</h1>"
  else comment project.readme

theorem indexContent_eq
    (context : Context) (isProject : context.page.project.tree.declaration.kind = .project) :
    indexContent context =
      "\n".intercalate
        (indexOpening context.page.project ::
          (sectionsOf context.page.project.root).flatMap
            (Section.lines context.linkToPlace)) := by
  have kind : context.page.project.root.declaration.kind = .project := isProject
  have title : escape "Modules" = "Modules" := by decide +kernel
  have heading :
      "<h2>Modules</h2>\n<ul>\n" =
        toString "<h2>" ++ toString "Modules" ++ toString "</h2>" ++ "\n" ++ "<ul>\n" := rfl
  rw [indexContent, sectionsOf, kind]
  cases modules : context.page.project.modules with
  | nil =>
      rw [Project.modules] at modules
      simp [sectionTable, sectionOf, modules, indexOpening]
  | cons first rest =>
      rw [Project.modules] at modules
      have listed :
          ((sectionTable .project).map fun entry =>
              sectionOf context.page.project.root entry.1 entry.2).filter
                (fun part => !part.items.isEmpty) =
            [{ title := "Modules", linked := true, items := first :: rest }] := by
        simp [sectionTable, sectionOf, modules, hasPage]
      rw [listed, List.flatMap_singleton, Section.lines, title, heading]
      simp only [↓reduceIte, indexOpening, String.intercalate_cons_cons,
        String.intercalate_singleton, String.append_assoc]

/-! ## The items of a section -/

variable {place item : Place} {part : Section}

theorem mem_childrenOfKind {kind : Kind} :
    item ∈ place.childrenOfKind kind ↔ item ∈ place.children ∧ item.declaration.kind = kind := by
  simp [Place.childrenOfKind]

theorem mem_sectionsOf :
    part ∈ sectionsOf place ↔
      part.items ≠ [] ∧
        ∃ entry ∈ sectionTable place.declaration.kind, sectionOf place entry.1 entry.2 = part := by
  rw [sectionsOf, List.mem_filter, List.mem_map]
  simp [and_comm]

theorem items_eq (member : part ∈ sectionsOf place) :
    ∃ kind, part.items = place.childrenOfKind kind ∧ part.title = sectionTitle kind ∧
      part.linked = hasPage kind := by
  obtain ⟨_, entry, entryMember, rfl⟩ := mem_sectionsOf.mp member
  exact ⟨entry.2, rfl, title_of_mem_sectionTable entryMember, rfl⟩

theorem exists_section
    (member : item ∈ place.children)
    (encloses : item.declaration.kind ∈ place.declaration.kind.encloses) :
    ∃ part ∈ sectionsOf place,
      item ∈ part.items ∧ part.title = sectionTitle item.declaration.kind ∧
        part.linked = hasPage item.declaration.kind := by
  rw [← sectionTable_kinds (List.ne_nil_of_mem encloses)] at encloses
  obtain ⟨entry, entryMember, kind⟩ := List.mem_map.mp encloses
  have itemMember : item ∈ place.childrenOfKind entry.2 :=
    mem_childrenOfKind.mpr ⟨member, kind.symm⟩
  refine ⟨sectionOf place entry.1 entry.2, ?_, itemMember, ?_, ?_⟩
  · exact mem_sectionsOf.mpr ⟨List.ne_nil_of_mem itemMember, entry, entryMember, rfl⟩
  · rw [← kind]
    exact title_of_mem_sectionTable entryMember
  · rw [← kind]
    rfl

theorem items_nodup (place : Place) : ((sectionsOf place).flatMap Section.items).Nodup := by
  have children : place.children.Nodup :=
    List.Nodup.of_map Place.position place.children_position_nodup
  have all : (((sectionTable place.declaration.kind).map fun entry =>
      sectionOf place entry.1 entry.2).flatMap Section.items).Nodup := by
    rw [List.flatMap_map, List.nodup_flatMap]
    refine ⟨fun entry _ => children.filter _, ?_⟩
    -- items of two sections differ in their kind
    refine (List.pairwise_map.mp (sectionTable_kinds_nodup place.declaration.kind)).imp ?_
    intro first second different item inFirst inSecond
    have firstKind := (mem_childrenOfKind.mp inFirst).2
    have secondKind := (mem_childrenOfKind.mp inSecond).2
    exact different (firstKind.symm.trans secondKind)
  refine all.sublist ?_
  rw [sectionsOf]
  exact List.filter_sublist.flatMap Section.items

end ApiDocs.Site
