import ApiDocs.Proofs.Model.Shape

/-!
# What encloses a place

A place lies below another one just where its position ends with the position of that one.  So the
places that enclose a place are those that enclose its parent, and its parent.
-/

namespace ApiDocs

namespace Place

variable {root upper lower parent item : Place}

/-- A place whose position ends with that of another one is that one or lies below it. -/
theorem mem_of_position_suffix (upperMember : upper ∈ root :: root.below)
    (lowerMember : lower ∈ root :: root.below) (ends : upper.position <:+ lower.position) :
    lower ∈ upper :: upper.below := by
  induction root using induct with
  | step root inductionHypothesis =>
      rcases List.mem_cons.mp upperMember with rfl | upperBelow
      · exact lowerMember
      · have longer := position_length_lt upperBelow
        rcases List.mem_cons.mp lowerMember with rfl | lowerBelow
        · have notLonger := ends.length_le
          omega
        · obtain ⟨first, firstMember, inFirst⟩ := mem_below.mp upperBelow
          obtain ⟨second, secondMember, inSecond⟩ := mem_below.mp lowerBelow
          -- both lie in the same child, since their positions end with that of the child
          have firstEnds := (position_suffix (List.mem_cons.mpr inFirst)).trans ends
          have secondEnds := position_suffix (List.mem_cons.mpr inSecond)
          obtain ⟨_, firstPosition⟩ := position_of_child firstMember
          obtain ⟨_, secondPosition⟩ := position_of_child secondMember
          have sameLength : first.position.length = second.position.length := by
            rw [firstPosition, secondPosition, List.length_cons, List.length_cons]
          have nested :=
            List.suffix_of_suffix_length_le firstEnds secondEnds (Nat.le_of_eq sameLength)
          obtain rfl : first = second :=
            List.inj_on_of_nodup_map root.children_position_nodup firstMember secondMember
              (nested.eq_of_length sameLength)
          exact inductionHypothesis first firstMember (List.mem_cons.mpr inFirst)
            (List.mem_cons.mpr inSecond)

/-- What passes from the outermost place and from parents to children holds of every place. -/
theorem induct_down {motive : (item : Place) → item ∈ root :: root.below → Prop}
    (outermost : motive root List.mem_cons_self)
    (step : ∀ parent (parentMember : parent ∈ root :: root.below), motive parent parentMember →
      ∀ child (childMember : child ∈ parent.children),
        motive child (List.mem_cons_of_mem root (root.child_mem_below parentMember childMember)))
    (item : Place) (member : item ∈ root :: root.below) :
    motive item member := by
  induction root using induct with
  | step root inductionHypothesis =>
      rcases List.mem_cons.mp member with rfl | deeper
      · exact outermost
      · obtain ⟨child, childMember, inside⟩ := mem_below.mp deeper
        have enclosed {place : Place} (inChild : place ∈ child :: child.below) :
            place ∈ root :: root.below :=
          List.mem_cons_of_mem root
            (mem_below.mpr ⟨child, childMember, List.mem_cons.mp inChild⟩)
        exact inductionHypothesis child childMember
          (motive := fun place inChild => motive place (enclosed inChild))
          (step root List.mem_cons_self outermost child childMember)
          (fun parent parentMember => step parent (enclosed parentMember))
          (List.mem_cons.mpr inside)

/-- What a child lies below is its parent, or what the parent lies below. -/
theorem child_mem_below_iff (upperMember : upper ∈ root :: root.below)
    (parentMember : parent ∈ root :: root.below) (member : item ∈ parent.children) :
    item ∈ upper.below ↔ parent ∈ upper :: upper.below := by
  constructor
  · intro below
    obtain ⟨other, otherMember, itemMember⟩ := upper.exists_parent below
    obtain ⟨_, position⟩ := position_of_child member
    obtain ⟨_, otherPosition⟩ := position_of_child itemMember
    have samePosition : parent.position = other.position := by
      rw [position] at otherPosition
      exact (List.cons.inj otherPosition).2
    apply mem_of_position_suffix upperMember parentMember
    rw [samePosition]
    exact position_suffix otherMember
  · intro parentBelow
    exact upper.child_mem_below parentBelow member

end Place

/-! ## Trails -/

/-- The places that enclose a place, from the outermost one down. -/
structure IsTrail (project : Project) (place : Place) (trail : List Place) : Prop where
  encloses : ∀ above, above ∈ trail ↔
    above ∈ project.root :: project.descendants ∧ place ∈ above.below
  downward : trail.Pairwise fun upper lower => lower ∈ upper.below

namespace IsTrail

variable {project : Project} {parent item : Place} {trail : List Place}

theorem root (project : Project) : IsTrail project project.root [] where
  encloses := by
    intro above
    refine iff_of_false List.not_mem_nil ?_
    rintro ⟨_, below⟩
    exact Nat.not_lt_zero _ (Place.position_length_lt below)
  downward := .nil

theorem child (isTrail : IsTrail project parent trail)
    (parentMember : parent ∈ project.root :: project.descendants)
    (member : item ∈ parent.children) : IsTrail project item (trail ++ [parent]) where
  encloses := by
    intro above
    rw [List.mem_append, List.mem_singleton, isTrail.encloses]
    constructor
    · rintro (⟨aboveMember, below⟩ | rfl)
      · exact ⟨aboveMember, above.child_mem_below (List.mem_cons_of_mem above below) member⟩
      · exact ⟨parentMember, above.child_mem_below List.mem_cons_self member⟩
    · rintro ⟨aboveMember, below⟩
      have parentBelow :=
        (Place.child_mem_below_iff aboveMember parentMember member).mp below
      rcases List.mem_cons.mp parentBelow with same | deeper
      · exact Or.inr same.symm
      · exact Or.inl ⟨aboveMember, deeper⟩
  downward := by
    rw [List.pairwise_append]
    refine ⟨isTrail.downward, List.pairwise_singleton _ _,
      fun upper upperMember lower isParent => ?_⟩
    rw [List.mem_singleton.mp isParent]
    exact ((isTrail.encloses upper).mp upperMember).2

end IsTrail

/-! ## Modules -/

namespace Project

variable {project : Project} {item : Place}

theorem modules_position_nodup (project : Project) :
    (project.modules.map Place.position).Nodup :=
  project.root.children_position_nodup.sublist (List.filter_sublist.map Place.position)

theorem position_of_mem_modules (member : item ∈ project.modules) :
    ∃ index, item.position = [index] :=
  Place.position_of_child (List.mem_filter.mp member).1

namespace Shaped

variable (shaped : project.Shaped)
include shaped

/-- The children of a project are its modules. -/
theorem modules_eq : project.modules = project.root.children := by
  refine List.filter_eq_self.mpr fun child member => ?_
  have rootShaped : project.root.tree.Shaped := shaped.tree
  have encloses := rootShaped.kind_of_child member
  have isProject : project.root.declaration.kind = .project := shaped.root
  rw [isProject, Kind.encloses, List.mem_singleton] at encloses
  exact decide_eq_true encloses

theorem mem_modules_of_kind (member : item ∈ project.descendants)
    (isModule : item.declaration.kind = .moduleFile) : item ∈ project.modules := by
  obtain ⟨parent, parentMember, itemMember, encloses⟩ := shaped.exists_parent member
  rcases List.mem_cons.mp parentMember with rfl | inner
  · rw [shaped.modules_eq]
    exact itemMember
  · have noProject := shaped.kind_ne_project inner
    rw [isModule] at encloses
    cases kind : parent.declaration.kind <;> simp_all [Kind.encloses]

end Shaped

end Project

end ApiDocs
