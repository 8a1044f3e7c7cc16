import ApiDocs.Plugins.BuiltIn
import ApiDocs.Proofs.Convert.Building
import ApiDocs.Proofs.Convert.OutlineShape
import ApiDocs.Proofs.Model.Projects
import ApiDocs.Proofs.Site.Listings

/-!
# Converted projects

A converted project is the outlines of its sources, in the order of the sources, of which hidden
declarations may have been removed.  It has the usual shape, so its site documents every
declaration in it once.
-/

namespace ApiDocs.Convert

/-! ## The model before anything is hidden -/

section Grafting

variable (model : Model) (declaration : Declaration) (readme : String) (entries : List Entry)

/-- A new project with outlines grafted below it. -/
def planted : Model :=
  graft (model.createProject declaration readme) model.size entries

/-- The children of a planted project are the outlines, on the identities that follow its own. -/
theorem planted_grafted :
    (planted model declaration readme entries).declaration? model.size = some declaration ∧
      Occupies (planted model declaration readme entries) entries (model.size + 1)
        ((planted model declaration readme entries).children model.size)
        (planted model declaration readme entries).size := by
  have isInside : model.size < (model.createProject declaration readme).size := by
    rw [Model.size_createProject]
    exact Nat.lt_succ_self _
  obtain ⟨keys, grafted⟩ := exists_grafted _ isInside entries
  have children := grafted.children model.size isInside
  rw [if_pos rfl, Model.children_createProject, List.nil_append] at children
  have occupies := grafted.occupies
  rw [Model.size_createProject] at occupies
  rw [planted, grafted.declaration? model.size isInside, Model.declaration?_createProject, children]
  exact ⟨rfl, occupies⟩

theorem planted_tree :
    ((planted model declaration readme entries).project model.size).tree =
      .node declaration (treesOf entries) := by
  obtain ⟨declared, occupies⟩ := planted_grafted model declaration readme entries
  have bound := occupies.le
  rw [Model.project]
  cases size : (planted model declaration readme entries).size with
  | zero =>
      omega
  | succ depth =>
      simp only
      rw [Model.treeTo, declared, Option.getD_some, occupies.treeTo (by omega)]

theorem planted_project :
    (planted model declaration readme entries).project model.size =
      { readme, tree := .node declaration (treesOf entries) } := by
  have tree := planted_tree model declaration readme entries
  have isInside : model.size < (model.createProject declaration readme).size := by
    rw [Model.size_createProject]
    exact Nat.lt_succ_self _
  have kept : (planted model declaration readme entries).readme? model.size = some readme := by
    rw [planted, readme?_graft _ isInside, Model.readme?_createProject]
  rw [Model.project] at tree ⊢
  simp only at tree
  rw [tree, ← Model.readme?, kept, Option.getD_some]

theorem planted_descendants :
    (planted model declaration readme entries).descendants model.size =
      List.range' (model.size + 1)
        ((planted model declaration readme entries).size - (model.size + 1)) := by
  obtain ⟨_, occupies⟩ := planted_grafted model declaration readme entries
  have bound := occupies.le
  rw [Model.descendants]
  cases size : (planted model declaration readme entries).size with
  | zero =>
      omega
  | succ depth =>
      rw [Model.descendantsTo, occupies.descendantsTo (by omega), size]

theorem planted_ascending : (planted model declaration readme entries).Ascending model.size := by
  obtain ⟨_, occupies⟩ := planted_grafted model declaration readme entries
  intro parent later child member
  by_cases isProject : parent = model.size
  · rw [isProject] at member
    have bounds := occupies.key_bounds child member
    omega
  · by_cases inside : parent < (planted model declaration readme entries).size
    · exact occupies.children_bounds parent (by omega) inside child member
    · rw [Model.children_of_size_le _ (Nat.le_of_not_lt inside)] at member
      cases member

end Grafting

/-! ## The shape of a converted project -/

theorem readInput_parsed
    {platform : Platform} {options : Options} {disk : Disk} {source : SourceInput} {entry : Entry}
    (parsed : readInput platform options disk source = .parsed entry) :
    ∃ view file,
      entry = moduleEntry view (moduleName (source.file.relativeTo source.root)) file := by
  rw [readInput] at parsed
  split at parsed
  · cases parsed
  · rw [readSource] at parsed
    split at parsed
    · cases parsed
    · split at parsed
      · cases parsed
      · split at parsed
        · cases parsed
        · cases parsed
          exact ⟨_, _, rfl⟩

theorem outline_fits
    {platform : Platform} {options : Options} {disk : Disk} {source : SourceInput} {entry : Entry}
    (member : entry ∈ outline platform options disk source) :
    entry.Fits .project := by
  rw [outline] at member
  split at member
  · rename_i parsed reading
    obtain ⟨view, file, rfl⟩ := readInput_parsed reading
    rw [List.mem_singleton.mp member]
    exact moduleEntry_fits view _ file
  · cases member

theorem planted_shaped
    (model : Model) (platform : Platform) (options : Options) (disk : Disk) (readme : String)
    (sources : List SourceInput) :
    ((planted model (projectDeclaration options) readme
      (sources.flatMap (outline platform options disk))).project model.size).Shaped := by
  have tree := planted_tree model (projectDeclaration options) readme
    (sources.flatMap (outline platform options disk))
  have fits : ∀ child ∈ treesOf (sources.flatMap (outline platform options disk)),
      child.declaration.kind ∈ Kind.encloses .project ∧ child.Shaped := by
    intro child member
    rw [treesOf_eq_flatMap, List.mem_flatMap] at member
    obtain ⟨entry, entryMember, inside⟩ := member
    obtain ⟨source, _, outlined⟩ := List.mem_flatMap.mp entryMember
    exact outline_fits outlined child inside
  refine ⟨?_, ?_⟩
  · rw [tree]
    rfl
  · rw [tree]
    exact Tree.Shaped.node (fun child member => (fits child member).1)
      fun child member => (fits child member).2

/-! ## What is left when members are removed -/

section Shrinking

variable {built smaller : Model} {key : Nat} (shrinks : built.Shrinks smaller)
include shrinks

theorem project_prunes : (smaller.project key).tree.Prunes (built.project key).tree := by
  have pruned := shrinks.treeTo built.size key
  rw [Model.project, Model.project, shrinks.size]
  exact pruned

theorem project_shaped (shaped : (built.project key).Shaped) : (smaller.project key).Shaped := by
  have prunes : (smaller.project key).tree.Prunes (built.project key).tree :=
    project_prunes shrinks
  refine ⟨?_, shaped.tree.prune prunes⟩
  rw [prunes.declaration_eq]
  exact shaped.root

variable (numbered : built.descendants key = List.range' (key + 1) (built.size - (key + 1)))
include numbered

theorem descendants_nodup : (smaller.descendants key).Nodup := by
  have sublist := shrinks.descendants key
  rw [numbered] at sublist
  exact (List.nodup_range' ..).sublist sublist

/-- The places of the project are the descendants in the model, in the same order. -/
theorem descendants_declarations :
    (smaller.descendants key).map smaller.declaration? =
      (smaller.project key).descendants.map fun place => some place.declaration := by
  have sublist := shrinks.descendants key
  rw [numbered] at sublist
  have places := congrArg (List.map some) (smaller.descendants_project key)
  rw [List.map_map, List.map_map] at places
  refine Eq.trans ?_ places.symm
  apply List.map_congr_left
  intro descendant member
  have bounds := List.mem_range'_1.mp (sublist.mem member)
  have inside : descendant < smaller.size := by
    rw [shrinks.size]
    omega
  obtain ⟨declaration, found⟩ := smaller.exists_declaration? inside
  rw [Function.comp_apply, Model.declarationOf, found, Option.getD_some]

end Shrinking

/-! ## Conversions -/

variable {Observed : Type} {converter after : Converter Observed}

/-- A project that is converted from sources, with no listener that changes the model except to
hide declarations, is the outlines of the sources without hidden members.  Each declaration in it
is one descendant of the project, and its site documents it exactly once: a module or class has
one page and one link to it, anything else is shown once, on the page of what encloses it. -/
theorem converted_project_documented
    {inputs : List String} {key : Nat} (onlyHides : OnlyHides converter.hooks)
    (converted : (convert inputs).run converter = (.ok key, after)) :
    let project := after.model.project key
    -- the project is made of the outlines, in the order of the sources
    (∃ readme sources times,
      (expandInputs converter.environment converter.disk converter.logger inputs).1 =
          .ok sources ∧
        key = converter.model.size ∧
        let outlines := sources.flatMap
          (outline converter.environment.platform converter.options converter.disk)
        let built :=
          planted converter.model (projectDeclaration converter.options) readme outlines
        (built.project key).tree =
            .node (projectDeclaration converter.options) (treesOf outlines) ∧
          after.model = (fun model => model.removeHidden key)^[times] built ∧
          project.tree.Prunes (built.project key).tree) ∧
      -- its places are the descendants in the model, each once and none left out
      (after.model.descendants key).Nodup ∧
      (∀ parent ∈ key :: after.model.descendants key, ∀ child ∈ after.model.children parent,
        child ∈ after.model.descendants key) ∧
      (after.model.descendants key).map after.model.declaration? =
        project.descendants.map (fun place => some place.declaration) ∧
      -- and its site documents each of them
      project.Shaped ∧ Site.Documents project := by
  intro project
  obtain ⟨readme, sources, times, expanded, rfl, hidden⟩ := convert_returns onlyHides converted
  have shaped := planted_shaped converter.model converter.environment.platform converter.options
    converter.disk readme sources
  set outlines := sources.flatMap
    (outline converter.environment.platform converter.options converter.disk) with isOutlines
  have tree :=
    planted_tree converter.model (projectDeclaration converter.options) readme outlines
  have ascending :=
    planted_ascending converter.model (projectDeclaration converter.options) readme outlines
  have numbered :=
    planted_descendants converter.model (projectDeclaration converter.options) readme outlines
  rw [← planted] at hidden
  have shrinks := Model.removeHidden_iterate_shrinks
    (planted converter.model (projectDeclaration converter.options) readme outlines)
    converter.model.size times
  rw [← hidden] at shrinks
  have smallerShaped := project_shaped shrinks shaped
  refine ⟨⟨readme, sources, times, expanded converter.logger, rfl, tree, hidden,
      project_prunes shrinks⟩, descendants_nodup shrinks numbered, ?_,
    descendants_declarations shrinks numbered, smallerShaped, Site.documents smallerShaped⟩
  intro parent parentMember child member
  exact Model.mem_descendantsTo_of_ascending (shrinks.ascending ascending) (Nat.le_refl _)
    (Nat.le_add_left _ _) parentMember member

/-- The plugin for hidden declarations changes the model in no other way. -/
theorem hiddenPlugin_onlyHides :
    OnlyHides ((Plugin.hidden : Plugin Observed).load.run .empty).2.convert := by
  intro event record member
  by_cases same : event = .resolveBegin
  · right
    subst same
    refine ⟨rfl, ?_⟩
    have only : record = ⟨_, 0, false⟩ := List.mem_singleton.mp member
    rw [only]
    intro key origin model observed
    rfl
  · have none : (((Plugin.hidden : Plugin Observed).load.run .empty).2.convert).registrations
        event = [] := Hooks.registrations_update_of_ne _ _ same
    rw [none] at member
    cases member

/-- A directory with one source file, and the plugin for hidden declarations. -/
def classConverter : Converter Unit :=
  { logger := .new .silent .none
    options := .initial
    environment := .bare
    disk :=
      { tree := .directory [("shapes.py", .file (Text.encode
          "class Shape:\n  def area(self): pass\n  def secret(self):\n    '@hidden'\n".toList))]
        workingDirectory := [] }
    hooks := ((Plugin.hidden : Plugin Unit).load.run .empty).2.convert
    model := .empty
    observed := () }

theorem converted_project_documented_class :
    OnlyHides classConverter.hooks ∧
      ∃ after, (convert ["shapes.py"]).run classConverter = (.ok 0, after) ∧
        after.model.descendants 0 = [1, 2, 3] ∧ Site.Documents (after.model.project 0) := by
  have answers : ((convert ["shapes.py"]).run classConverter).1.toOption = some 0 := by
    decide +kernel
  have converted : (convert ["shapes.py"]).run classConverter =
      (.ok 0, ((convert ["shapes.py"]).run classConverter).2) := by
    generalize (convert ["shapes.py"]).run classConverter = result at answers
    rcases result with ⟨outcome, after⟩
    cases outcome with
    | error failure => cases answers
    | ok key =>
        cases answers
        rfl
  refine ⟨hiddenPlugin_onlyHides, _, converted, by decide +kernel, ?_⟩
  exact (converted_project_documented hiddenPlugin_onlyHides converted).2.2.2.2.2

end ApiDocs.Convert
