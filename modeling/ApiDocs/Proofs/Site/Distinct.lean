import ApiDocs.Proofs.Convert.Project
import ApiDocs.Proofs.Site.Listings

/-!
# When pages share an address

A page is named by the full name of what it documents, and nothing keeps two modules or two classes
from having the same one.  The addresses are distinct just where these names are.
-/

namespace ApiDocs

/-- The classes of the modules of a project. -/
def Project.classes (project : Project) : List Place :=
  project.modules.flatMap fun module => module.childrenOfKind .classDefinition

namespace Site

/-! ## Addresses and names -/

theorem addressOf?_eq_some_iff {kind : Kind} {name address : String} :
    addressOf? kind name = some address ↔
      kind = .moduleFile ∧ "modules/" ++ name ++ ".html" = address ∨
        kind = .classDefinition ∧ "classes/" ++ name ++ ".html" = address := by
  cases kind <;> simp [addressOf?]

/-- Texts with different first characters are different. -/
theorem ne_of_head? {first second : String} (apart : first.toList.head? ≠ second.toList.head?) :
    first ≠ second := by
  rintro rfl
  exact apart rfl

/-- An address tells the kind and the name that it is the address of. -/
theorem addressOf?_inj
    {kind other : Kind} {name otherName address : String}
    (found : addressOf? kind name = some address)
    (foundOther : addressOf? other otherName = some address) :
    kind = other ∧ name = otherName := by
  have apart (first second : String) :
      "modules/" ++ first ++ ".html" ≠ "classes/" ++ second ++ ".html" :=
    ne_of_head? (by simp)
  rcases addressOf?_eq_some_iff.mp found with ⟨rfl, rfl⟩ | ⟨rfl, rfl⟩
  · rcases addressOf?_eq_some_iff.mp foundOther with ⟨rfl, same⟩ | ⟨_, same⟩
    · exact ⟨rfl, by simpa using same.symm⟩
    · exact absurd same.symm (apart _ _)
  · rcases addressOf?_eq_some_iff.mp foundOther with ⟨_, same⟩ | ⟨rfl, same⟩
    · exact absurd same (apart _ _)
    · exact ⟨rfl, by simpa using same.symm⟩

theorem ne_index_of_addressOf?
    {kind : Kind} {name address : String}
    (found : addressOf? kind name = some address) :
    indexAddress ≠ address := by
  rcases addressOf?_eq_some_iff.mp found with ⟨_, rfl⟩ | ⟨_, rfl⟩
  · exact ne_of_head? (by simp [indexAddress])
  · exact ne_of_head? (by simp [indexAddress])

/-- A text without dots after the last dot can be told from what stands before that dot. -/
theorem append_dot_inj
    {before otherBefore after otherAfter : List Char}
    (noDot : '.' ∉ after) (noOtherDot : '.' ∉ otherAfter)
    (same : before ++ '.' :: after = otherBefore ++ '.' :: otherAfter) :
    before = otherBefore ∧ after = otherAfter := by
  rcases List.append_eq_append_iff.mp same with ⟨between, rest, afterEq⟩ | ⟨between, rest, afterEq⟩
  · cases between with
    | nil => exact ⟨by simpa using rest.symm, by simpa using afterEq⟩
    | cons head tail =>
        have inside : after = tail ++ '.' :: otherAfter := (List.cons.inj afterEq).2
        exact absurd (by simp [inside]) noDot
  · cases between with
    | nil => exact ⟨by simpa using rest, by simpa using afterEq.symm⟩
    | cons head tail =>
        have inside : otherAfter = tail ++ '.' :: after := (List.cons.inj afterEq).2
        exact absurd (by simp [inside]) noOtherDot

/-! ## Distinct addresses -/

variable {project : Project}

theorem pages_addresses (project : Project) :
    (pages project).map Page.address =
      indexAddress :: project.descendants.filterMap fun place => chainAddress? place.chain := by
  rw [pages, List.map_cons, List.map_filterMap]
  congr 2
  funext place
  rw [pageOf?, Option.map_map]
  exact Option.map_id'

/-- Declarations of one kind have different names. -/
def NamesApart (kind : Kind) (first second : Place) : Prop :=
  first.declaration.kind = kind → second.declaration.kind = kind → first.fullName ≠ second.fullName

theorem pairwise_namesApart (kind : Kind) (items : List Place) :
    items.Pairwise (NamesApart kind) ↔
      ((items.filter fun item => item.declaration.kind = kind).map Place.fullName).Nodup := by
  rw [List.Nodup, List.pairwise_map, List.pairwise_filter]
  simp only [decide_eq_true_eq]
  rfl

theorem addresses_apart_iff (first second : Place) :
    (∀ address, chainAddress? first.chain = some address →
      ∀ other, chainAddress? second.chain = some other → address ≠ other) ↔
      NamesApart .moduleFile first second ∧ NamesApart .classDefinition first second := by
  have found (place : Place) :
      chainAddress? place.chain = addressOf? place.declaration.kind place.fullName := rfl
  simp only [found]
  constructor
  · intro apart
    have each (kind : Kind) (paged : ∀ name, (addressOf? kind name).isSome = true) :
        NamesApart kind first second := by
      intro firstKind secondKind same
      obtain ⟨address, isFirst⟩ := Option.isSome_iff_exists.mp (paged first.fullName)
      refine apart address (firstKind ▸ isFirst) address ?_ rfl
      rw [secondKind, ← same]
      exact isFirst
    exact ⟨each .moduleFile fun _ => rfl, each .classDefinition fun _ => rfl⟩
  · rintro ⟨modulesApart, classesApart⟩ address isFirst other isSecond rfl
    obtain ⟨sameKind, sameName⟩ := addressOf?_inj isFirst isSecond
    rcases addressOf?_eq_some_iff.mp isFirst with ⟨isModule, _⟩ | ⟨isClass, _⟩
    · exact modulesApart isModule (sameKind ▸ isModule) sameName
    · exact classesApart isClass (sameKind ▸ isClass) sameName

/-- Addresses are distinct just where no two modules and no two classes have the same full name. -/
theorem addresses_nodup_iff_filter (project : Project) :
    ((pages project).map Page.address).Nodup ↔
      ((project.descendants.filter fun item => item.declaration.kind = .moduleFile).map
        Place.fullName).Nodup ∧
        ((project.descendants.filter fun item => item.declaration.kind = .classDefinition).map
          Place.fullName).Nodup := by
  have notIndex : indexAddress ∉
      project.descendants.filterMap fun place => chainAddress? place.chain := by
    intro member
    obtain ⟨place, _, found⟩ := List.mem_filterMap.mp member
    exact ne_index_of_addressOf? found rfl
  calc ((pages project).map Page.address).Nodup
      ↔ (project.descendants.filterMap fun place => chainAddress? place.chain).Nodup := by
        rw [pages_addresses, List.nodup_cons]
        exact and_iff_right notIndex
    _ ↔ project.descendants.Pairwise fun first second =>
          NamesApart .moduleFile first second ∧ NamesApart .classDefinition first second := by
        rw [List.Nodup, List.pairwise_filterMap]
        exact List.Pairwise.iff fun first second => addresses_apart_iff first second
    _ ↔ _ := by
        rw [List.pairwise_and_iff, pairwise_namesApart, pairwise_namesApart]

section Shaped

variable (shaped : project.Shaped)
include shaped

theorem modules_eq : project.modules = project.root.children := by
  have rootShaped : project.root.tree.Shaped := shaped.tree
  have isProject : project.root.declaration.kind = .project := shaped.root
  refine List.filter_eq_self.mpr fun child member => ?_
  have enclosed := rootShaped.kind_of_child member
  rw [isProject] at enclosed
  rw [List.mem_singleton.mp enclosed]
  rfl

theorem filter_modules :
    (project.descendants.filter fun item => item.declaration.kind = .moduleFile) =
      project.modules := by
  have rootShaped : project.root.tree.Shaped := shaped.tree
  have isProject : project.root.declaration.kind = .project := shaped.root
  refine rootShaped.filter_below fun outer enclosed => ?_
  rw [isProject]
  revert enclosed
  cases outer <;> decide

theorem filter_classes :
    (project.descendants.filter fun item => item.declaration.kind = .classDefinition) =
      project.classes := by
  have rootShaped : project.root.tree.Shaped := shaped.tree
  have below : project.descendants =
      project.modules.flatMap fun module => module :: module.below := by
    rw [modules_eq shaped]
    exact project.root.below_eq
  rw [below, List.filter_flatMap, Project.classes]
  refine List.flatMap_congr fun module member => ?_
  obtain ⟨child, isModule⟩ := mem_childrenOfKind.mp member
  have notClass : ¬ decide (module.declaration.kind = .classDefinition) = true := by
    rw [isModule]
    decide
  rw [List.filter_cons, if_neg notClass]
  refine (rootShaped.of_mem_children child).filter_below fun outer enclosed => ?_
  rw [isModule]
  revert enclosed
  cases outer <;> decide

theorem fullName_module {module : Place} (member : module ∈ project.modules) :
    module.fullName = module.declaration.name := by
  obtain ⟨child, isModule⟩ := mem_childrenOfKind.mp member
  obtain ⟨_, _, ancestors, _⟩ := Place.mem_children.mp child
  have isProject : project.root.declaration.kind = .project := shaped.root
  rw [Place.fullName, Place.chain, ancestors, Place.chain, Declaration.dottedName]
  simp [isModule, isProject]

/-- The addresses of a project are distinct just where the names of its modules are, and the full
names of its classes. -/
theorem addresses_nodup_iff :
    ((pages project).map Page.address).Nodup ↔
      (project.modules.map fun module => module.declaration.name).Nodup ∧
        (project.classes.map Place.fullName).Nodup := by
  have names : project.modules.map Place.fullName =
      project.modules.map fun module => module.declaration.name :=
    List.map_congr_left fun module member => fullName_module shaped member
  rw [addresses_nodup_iff_filter, filter_modules shaped, filter_classes shaped, names]

theorem fullName_class
    {module item : Place} (member : module ∈ project.modules)
    (itemMember : item ∈ module.childrenOfKind .classDefinition) :
    item.fullName = module.declaration.name ++ "." ++ item.declaration.name := by
  obtain ⟨child, isModule⟩ := mem_childrenOfKind.mp member
  obtain ⟨itemChild, isClass⟩ := mem_childrenOfKind.mp itemMember
  obtain ⟨_, _, ancestors, _⟩ := Place.mem_children.mp child
  obtain ⟨_, _, itemAncestors, _⟩ := Place.mem_children.mp itemChild
  have isProject : project.root.declaration.kind = .project := shaped.root
  rw [Place.fullName, Place.chain, itemAncestors, Place.chain, ancestors, Place.chain,
    Declaration.dottedName]
  simp [isModule, isClass, isProject]

/-- Where the names of classes hold no dot, full names are the same just for two classes of one name
in one module, or in two modules of one name. -/
theorem classes_nodup_iff
    (modulesApart : (project.modules.map fun module => module.declaration.name).Nodup)
    (plain : ∀ item ∈ project.classes, '.' ∉ item.declaration.name.toList) :
    (project.classes.map Place.fullName).Nodup ↔
      ∀ module ∈ project.modules,
        ((module.childrenOfKind .classDefinition).map fun item => item.declaration.name).Nodup := by
  have plainIn {module item : Place} (member : module ∈ project.modules)
      (itemMember : item ∈ module.childrenOfKind .classDefinition) :
      '.' ∉ item.declaration.name.toList :=
    plain item (List.mem_flatMap.mpr ⟨module, member, itemMember⟩)
  -- in one module, full names differ where names do
  have inside (module : Place) (member : module ∈ project.modules) :
      ((module.childrenOfKind .classDefinition).map Place.fullName).Nodup ↔
        ((module.childrenOfKind .classDefinition).map fun item => item.declaration.name).Nodup := by
    have names : (module.childrenOfKind .classDefinition).map Place.fullName =
        ((module.childrenOfKind .classDefinition).map fun item => item.declaration.name).map
          fun name => module.declaration.name ++ "." ++ name := by
      rw [List.map_map]
      exact List.map_congr_left fun item itemMember => fullName_class shaped member itemMember
    rw [names]
    exact List.nodup_map_iff fun name other same => by simpa using same
  -- in two modules, full names differ because the modules do
  have apart : project.modules.Pairwise fun first second =>
      List.Disjoint ((first.childrenOfKind .classDefinition).map Place.fullName)
        ((second.childrenOfKind .classDefinition).map Place.fullName) := by
    refine List.Pairwise.imp_of_mem ?_ (List.pairwise_map.mp modulesApart)
    intro first second firstMember secondMember different name inFirst inSecond
    obtain ⟨item, itemMember, rfl⟩ := List.mem_map.mp inFirst
    obtain ⟨other, otherMember, same⟩ := List.mem_map.mp inSecond
    rw [fullName_class shaped firstMember itemMember,
      fullName_class shaped secondMember otherMember] at same
    have characters := congrArg String.toList same
    simp only [String.toList_append, List.append_assoc] at characters
    have prefixes := append_dot_inj (plainIn secondMember otherMember)
      (plainIn firstMember itemMember) characters
    exact different (String.toList_inj.mp prefixes.1.symm)
  rw [Project.classes, List.map_flatMap, List.nodup_flatMap, and_iff_left apart]
  exact forall₂_congr inside

end Shaped

end Site

/-! ## Addresses of converted projects -/

namespace Convert

open ApiDocs.Computation

/-- The name of the module in a source. -/
def SourceInput.moduleName (source : SourceInput) : String :=
  Convert.moduleName (source.file.relativeTo source.root)

/-- Sources that can be read are modules of these names; others are left out. -/
theorem outline_names
    (platform : Platform) (options : Options) (disk : Disk) (sources : List SourceInput) :
    ((treesOf (sources.flatMap (outline platform options disk))).map fun tree =>
      tree.declaration.name).Sublist (sources.map SourceInput.moduleName) := by
  induction sources with
  | nil => exact List.Sublist.refl []
  | cons source sources inductionHypothesis =>
      rw [List.flatMap_cons, treesOf_eq_flatMap, List.flatMap_append, ← treesOf_eq_flatMap,
        ← treesOf_eq_flatMap, List.map_append, List.map_cons]
      have first : ((treesOf (outline platform options disk source)).map
          fun tree => tree.declaration.name).Sublist [source.moduleName] := by
        rw [outline]
        split
        · rename_i entry reading
          obtain ⟨view, file, rfl⟩ := readInput_parsed reading
          exact List.Sublist.refl _
        · exact List.nil_sublist _
      exact first.append inductionHypothesis

/-- Members that are left out take their names with them. -/
theorem prunes_names {fewer tree : Tree} (prunes : fewer.Prunes tree) :
    (fewer.children.map fun child => child.declaration.name).Sublist
      (tree.children.map fun child => child.declaration.name) := by
  have names {trees remaining : List Tree}
      (sublist : List.SublistForall₂ Tree.Prunes remaining trees) :
      (remaining.map fun child => child.declaration.name).Sublist
        (trees.map fun child => child.declaration.name) := by
    induction sublist with
    | nil => exact List.nil_sublist _
    | cons related _ inductionHypothesis =>
        rw [List.map_cons, List.map_cons, related.declaration_eq]
        exact inductionHypothesis.cons_cons _
    | cons_right _ inductionHypothesis => exact inductionHypothesis.cons _
  cases prunes with
  | node declaration sublist => exact names sublist

variable {Observed : Type} {converter after : Converter Observed}

/-- In a converted project each page has an address of its own just where no two modules have the
same name and no two classes the same full name; where class names hold no dot, the latter is to say
that no module shows two classes of one name.  The names of the modules are among those of the
sources, in their order. -/
theorem converted_addresses_nodup_iff
    {inputs : List String} {key : Nat} (onlyHides : OnlyHides converter.hooks)
    (converted : (convert inputs).run converter = (.ok key, after)) :
    let project := after.model.project key
    let modulesApart := (project.modules.map fun module => module.declaration.name).Nodup
    (((Site.pages project).map Site.Page.address).Nodup ↔
        modulesApart ∧ (project.classes.map Place.fullName).Nodup) ∧
      ((∀ item ∈ project.classes, '.' ∉ item.declaration.name.toList) →
        (((Site.pages project).map Site.Page.address).Nodup ↔
          modulesApart ∧ ∀ module ∈ project.modules,
            ((module.childrenOfKind .classDefinition).map fun item =>
              item.declaration.name).Nodup)) ∧
      ∃ sources,
        (expandInputs converter.environment converter.disk converter.logger inputs).1 =
            .ok sources ∧
          (project.modules.map fun module => module.declaration.name).Sublist
            (sources.map SourceInput.moduleName) := by
  intro project modulesApart
  obtain ⟨readme, sources, times, expanded, rfl, hidden⟩ := convert_returns onlyHides converted
  rw [← planted] at hidden
  have shrinks := Model.removeHidden_iterate_shrinks
    (planted converter.model (projectDeclaration converter.options) readme
      (sources.flatMap
        (outline converter.environment.platform converter.options converter.disk)))
    converter.model.size times
  rw [← hidden] at shrinks
  have shaped : project.Shaped := project_shaped shrinks
    (planted_shaped converter.model converter.environment.platform converter.options converter.disk
      readme sources)
  have addresses := Site.addresses_nodup_iff shaped
  refine ⟨addresses, fun plain => addresses.trans (and_congr_right fun apart =>
    Site.classes_nodup_iff shaped apart plain), sources, expanded converter.logger, ?_⟩
  have pruned : project.tree.Prunes _ := project_prunes shrinks
  have names := prunes_names pruned
  rw [planted_tree] at names
  have moduleNames : (project.modules.map fun module => module.declaration.name) =
      project.tree.children.map fun child => child.declaration.name := by
    have trees : project.tree.children = project.root.children.map Place.tree :=
      project.root.map_tree_children.symm
    rw [Site.modules_eq shaped, trees, List.map_map]
    rfl
  rw [moduleNames]
  exact names.trans
    (outline_names converter.environment.platform converter.options converter.disk sources)

/-! ## Two packages -/

/-- Two directories, each with the file that initialises a package. -/
def packagesConverter : Converter Unit :=
  { logger := .new .silent .none
    options := .initial
    environment := .bare
    disk :=
      { tree := .directory
          [("one", .directory [("__init__.py", .file (Text.encode "def f(): pass\n".toList))]),
            ("two", .directory [("__init__.py", .file (Text.encode "def g(): pass\n".toList))])]
        workingDirectory := [] }
    hooks := .empty
    model := .empty
    observed := () }

/-- What the conversion of both comes to. -/
def packagesConverted : Converter Unit := ((convert ["one", "two"]).run packagesConverter).2

theorem packages_converted :
    (convert ["one", "two"]).run packagesConverter = (.ok 0, packagesConverted) :=
  Prod.ext (eq_ok_of_toOption (by decide +kernel)) rfl

theorem packages_onlyHides : OnlyHides packagesConverter.hooks := by
  intro event record member
  cases member

/-- Both packages have the name of their file, and so the same page. -/
theorem converted_addresses_nodup_iff_packages :
    ¬ ((Site.pages (packagesConverted.model.project 0)).map Site.Page.address).Nodup := by
  intro distinct
  have apart := ((converted_addresses_nodup_iff packages_onlyHides packages_converted).1.mp
    distinct).1
  revert apart
  decide +kernel

/-- Without an error, two pages can still have the same address. -/
theorem not_converted_addresses_nodup :
    ¬ ∀ (converter after : Converter Unit) (inputs : List String) (key : Nat),
      OnlyHides converter.hooks → (convert inputs).run converter = (.ok key, after) →
        after.logger.errors = 0 →
          ((Site.pages (after.model.project key)).map Site.Page.address).Nodup := by
  intro distinct
  have addresses := distinct packagesConverter packagesConverted ["one", "two"] 0
    packages_onlyHides packages_converted (by decide +kernel)
  revert addresses
  decide +kernel

end Convert

end ApiDocs
