import ApiDocs.Proofs.Model.Places

/-!
# The shape of projects

A project encloses modules, a module encloses classes, functions and variables, and a class
encloses properties and methods.  Nothing else encloses anything.
-/

namespace ApiDocs

/-- The kinds that declarations of a kind enclose. -/
def Kind.encloses : Kind → List Kind
  | .project => [.moduleFile]
  | .moduleFile => [.classDefinition, .function, .variableBinding]
  | .classDefinition => [.property, .method]
  | _ => []

/-- How deep a kind stands in a project. -/
def Kind.depth : Kind → Nat
  | .project => 0
  | .moduleFile => 1
  | .classDefinition => 2
  | _ => 3

theorem Kind.depth_lt_of_mem_encloses {outer inner : Kind} (member : inner ∈ outer.encloses) :
    outer.depth < inner.depth := by
  revert member
  cases outer <;> cases inner <;> decide

/-- Every declaration of the tree encloses only what its kind encloses. -/
inductive Tree.Shaped : Tree → Prop where
  | node {declaration : Declaration} {children : List Tree} :
      (∀ child ∈ children, child.declaration.kind ∈ declaration.kind.encloses) →
      (∀ child ∈ children, child.Shaped) →
      Tree.Shaped (.node declaration children)

/-- The shape of the projects that are converted from sources. -/
structure Project.Shaped (project : Project) : Prop where
  root : project.tree.declaration.kind = .project
  tree : project.tree.Shaped

namespace Tree.Shaped

variable {place child item : Place}

theorem kind_of_child (shaped : place.tree.Shaped) (member : child ∈ place.children) :
    child.declaration.kind ∈ place.declaration.kind.encloses := by
  have inside := Place.tree_mem_of_mem_children member
  rw [Place.declaration]
  cases shapeOf : place.tree with
  | node declaration children =>
      rw [shapeOf] at shaped inside
      cases shaped with
      | node kinds _ => exact kinds child.tree inside

theorem of_mem_children (shaped : place.tree.Shaped) (member : child ∈ place.children) :
    child.tree.Shaped := by
  have inside := Place.tree_mem_of_mem_children member
  cases shapeOf : place.tree with
  | node declaration children =>
      rw [shapeOf] at shaped inside
      cases shaped with
      | node _ shapes => exact shapes child.tree inside

theorem of_mem_below (shaped : place.tree.Shaped) (member : item ∈ place :: place.below) :
    item.tree.Shaped := by
  induction place using Place.induct with
  | step place inductionHypothesis =>
      rcases List.mem_cons.mp member with rfl | deeper
      · exact shaped
      · obtain ⟨child, childMember, inside⟩ := Place.mem_below.mp deeper
        exact inductionHypothesis child childMember (shaped.of_mem_children childMember)
          (List.mem_cons.mpr inside)

/-- What encloses a declaration is of a kind that encloses something. -/
theorem ancestors_enclose
    (shaped : place.tree.Shaped)
    (outer : ∀ declaration ∈ place.ancestors, declaration.kind.encloses ≠ [])
    (member : item ∈ place :: place.below) :
    ∀ declaration ∈ item.ancestors, declaration.kind.encloses ≠ [] := by
  induction place using Place.induct with
  | step place inductionHypothesis =>
      rcases List.mem_cons.mp member with rfl | deeper
      · exact outer
      · obtain ⟨child, childMember, inside⟩ := Place.mem_below.mp deeper
        apply inductionHypothesis child childMember (shaped.of_mem_children childMember) _
          (List.mem_cons.mpr inside)
        obtain ⟨_, _, ancestors, _⟩ := Place.mem_children.mp childMember
        intro declaration declarationMember
        rw [ancestors, Place.chain] at declarationMember
        rcases List.mem_cons.mp declarationMember with rfl | further
        · exact List.ne_nil_of_mem (shaped.kind_of_child childMember)
        · exact outer declaration further

/-- What stands below a declaration is of a deeper kind. -/
theorem depth_lt (shaped : place.tree.Shaped) (member : item ∈ place.below) :
    place.declaration.kind.depth < item.declaration.kind.depth := by
  induction place using Place.induct with
  | step place inductionHypothesis =>
      obtain ⟨child, childMember, inside⟩ := Place.mem_below.mp member
      have enclosed := Kind.depth_lt_of_mem_encloses (shaped.kind_of_child childMember)
      rcases inside with rfl | deeper
      · exact enclosed
      · exact enclosed.trans
          (inductionHypothesis child childMember (shaped.of_mem_children childMember) deeper)

/-- Where only one kind encloses another, all of that other kind below it are its children. -/
theorem filter_below
    (shaped : place.tree.Shaped) {kind : Kind}
    (only : ∀ outer : Kind, kind ∈ outer.encloses → outer = place.declaration.kind) :
    (place.below.filter fun item => item.declaration.kind = kind) = place.childrenOfKind kind := by
  have each : ∀ child ∈ place.children,
      ((child :: child.below).filter fun item => item.declaration.kind = kind) =
        [child].filter fun item => item.declaration.kind = kind := by
    intro child member
    have none : (child.below.filter fun item => decide (item.declaration.kind = kind)) = [] := by
      rw [List.filter_eq_nil_iff]
      intro item itemMember isKind
      have childShaped := shaped.of_mem_children member
      obtain ⟨parent, parentMember, itemChild⟩ := child.exists_parent itemMember
      have enclosed := (childShaped.of_mem_below parentMember).kind_of_child itemChild
      rw [of_decide_eq_true isKind] at enclosed
      have childDeeper := shaped.depth_lt (Place.mem_below.mpr ⟨child, member, Or.inl rfl⟩)
      rcases List.mem_cons.mp parentMember with rfl | deeper
      · rw [only _ enclosed] at childDeeper
        exact Nat.lt_irrefl _ childDeeper
      · have parentDeeper := childShaped.depth_lt deeper
        rw [only _ enclosed] at parentDeeper
        exact Nat.lt_asymm childDeeper parentDeeper
    rw [List.filter_cons, List.filter_cons, none, List.filter_nil]
  rw [Place.below_eq, List.filter_flatMap, List.flatMap_congr each, ← List.filter_flatMap,
    List.flatMap_singleton', Place.childrenOfKind]

end Tree.Shaped

namespace Project.Shaped

variable {project : Project} (shaped : project.Shaped)
include shaped

/-- Everything in a project but its root is enclosed by what its kind belongs to. -/
theorem exists_parent {item : Place} (member : item ∈ project.descendants) :
    ∃ parent ∈ project.root :: project.descendants,
      item ∈ parent.children ∧
        item.declaration.kind ∈ parent.declaration.kind.encloses := by
  obtain ⟨parent, parentMember, itemMember⟩ := project.root.exists_parent member
  have rootShaped : project.root.tree.Shaped := shaped.tree
  have parentShaped := rootShaped.of_mem_below parentMember
  exact ⟨parent, parentMember, itemMember, parentShaped.kind_of_child itemMember⟩

theorem kind_ne_project {item : Place} (member : item ∈ project.descendants) :
    item.declaration.kind ≠ .project := by
  obtain ⟨parent, _, _, kind⟩ := shaped.exists_parent member
  intro same
  rw [same] at kind
  cases parentKind : parent.declaration.kind <;> simp [parentKind, Kind.encloses] at kind

end Project.Shaped

end ApiDocs
