import ApiDocs.Model.Tree
import Mathlib.Data.List.Infix
import Mathlib.Data.List.Nodup

/-!
# Places in a project

The places of a project are its root and, for each place, the places of its children, parents
before children.  Positions tell places apart: that of a child is the position of its parent with
one index more.
-/

namespace ApiDocs

/-! ## Places below a place -/

namespace Place

/-- Everything below a place, parents before children. -/
def below (place : Place) : List Place :=
  Tree.placesOfList place.chain place.position 0 place.tree.children

theorem children_of_list
    (ancestors : List Declaration) (position : List Nat) (index : Nat) (trees : List Tree) :
    Tree.placesOfList ancestors position index trees =
      (trees.mapIdx fun offset tree =>
        ({ tree, ancestors, position := (index + offset) :: position } : Place)).flatMap
          fun child => child :: child.below := by
  induction trees generalizing index with
  | nil =>
      rw [Tree.placesOfList]
      rfl
  | cons tree trees inductionHypothesis =>
      cases tree with
      | node declaration children =>
          rw [Tree.placesOfList, Tree.places, List.mapIdx_cons, List.flatMap_cons,
            inductionHypothesis (index + 1)]
          simp only [Nat.add_assoc, Nat.add_comm 1]
          rfl

/-- Below a place are its children, each followed by what is below it. -/
theorem below_eq (place : Place) :
    place.below = place.children.flatMap fun child => child :: child.below := by
  rw [below, children_of_list]
  simp only [Nat.zero_add]
  rfl

theorem mem_below {place item : Place} :
    item ∈ place.below ↔
      ∃ child ∈ place.children, item = child ∨ item ∈ child.below := by
  rw [below_eq]
  simp

theorem mem_children {place item : Place} :
    item ∈ place.children ↔
      ∃ index, place.tree.children[index]? = some item.tree ∧
        item.ancestors = place.chain ∧ item.position = index :: place.position := by
  rw [children, List.mem_iff_getElem?]
  constructor
  · rintro ⟨index, found⟩
    rw [List.getElem?_mapIdx, Option.map_eq_some_iff] at found
    obtain ⟨tree, found, rfl⟩ := found
    exact ⟨index, found, rfl, rfl⟩
  · rintro ⟨index, found, ancestors, position⟩
    refine ⟨index, ?_⟩
    rw [List.getElem?_mapIdx, found, ← ancestors, ← position]
    rfl

theorem tree_mem_of_mem_children {place child : Place} (member : child ∈ place.children) :
    child.tree ∈ place.tree.children := by
  obtain ⟨index, found, _⟩ := mem_children.mp member
  exact List.mem_of_getElem? found

theorem map_tree_children (place : Place) :
    place.children.map Place.tree = place.tree.children := by
  apply List.ext_getElem
  · simp [children]
  · intro index _ _
    simp [children]

theorem sizeOf_lt_of_mem_children {place child : Place} (member : child ∈ place.children) :
    sizeOf child.tree < sizeOf place.tree := by
  have inside := tree_mem_of_mem_children member
  cases h : place.tree with
  | node declaration children =>
      rw [h] at inside
      have smaller := List.sizeOf_lt_of_mem inside
      rw [Tree.children] at smaller
      rw [Tree.node.sizeOf_spec]
      omega

/-- What holds of a place as soon as it holds of its children holds of every place. -/
theorem induct {motive : Place → Prop}
    (step : ∀ place : Place, (∀ child ∈ place.children, motive child) → motive place)
    (place : Place) :
    motive place := by
  apply step
  intro child member
  exact induct step child
termination_by sizeOf place.tree
decreasing_by exact sizeOf_lt_of_mem_children member

/-- Everything below a place is a child of it or of something below it. -/
theorem exists_parent (place : Place) {item : Place} (member : item ∈ place.below) :
    ∃ parent ∈ place :: place.below, item ∈ parent.children := by
  induction place using induct with
  | step place inductionHypothesis =>
      obtain ⟨child, childMember, rfl | deeper⟩ := mem_below.mp member
      · exact ⟨place, List.mem_cons_self, childMember⟩
      · obtain ⟨parent, parentMember, itemMember⟩ :=
          inductionHypothesis child childMember deeper
        refine ⟨parent, List.mem_cons_of_mem _ (mem_below.mpr ⟨child, childMember, ?_⟩),
          itemMember⟩
        exact List.mem_cons.mp parentMember

theorem child_mem_below (place : Place) {parent child : Place}
    (parentMember : parent ∈ place :: place.below) (member : child ∈ parent.children) :
    child ∈ place.below := by
  induction place using induct with
  | step place inductionHypothesis =>
      rcases List.mem_cons.mp parentMember with rfl | deeper
      · exact mem_below.mpr ⟨child, member, Or.inl rfl⟩
      · obtain ⟨top, topMember, inside⟩ := mem_below.mp deeper
        refine mem_below.mpr ⟨top, topMember, Or.inr ?_⟩
        exact inductionHypothesis top topMember (List.mem_cons.mpr inside)

/-! ## Positions -/

theorem position_of_child {place child : Place} (member : child ∈ place.children) :
    ∃ index, child.position = index :: place.position := by
  obtain ⟨index, _, _, position⟩ := mem_children.mp member
  exact ⟨index, position⟩

theorem position_suffix {place item : Place} (member : item ∈ place :: place.below) :
    place.position <:+ item.position := by
  induction place using induct with
  | step place inductionHypothesis =>
      rcases List.mem_cons.mp member with rfl | deeper
      · exact List.suffix_rfl
      · obtain ⟨child, childMember, inside⟩ := mem_below.mp deeper
        obtain ⟨index, position⟩ := position_of_child childMember
        have longer := inductionHypothesis child childMember (List.mem_cons.mpr inside)
        rw [position] at longer
        exact (List.suffix_cons index place.position).trans longer

theorem position_length_lt {place item : Place} (member : item ∈ place.below) :
    place.position.length < item.position.length := by
  obtain ⟨child, childMember, inside⟩ := mem_below.mp member
  obtain ⟨index, position⟩ := position_of_child childMember
  have longer := (position_suffix (List.mem_cons.mpr inside)).length_le
  rw [position, List.length_cons] at longer
  omega

theorem children_position_nodup (place : Place) :
    (place.children.map Place.position).Nodup := by
  have positions : place.children.map Place.position =
      (List.range place.tree.children.length).map fun index => index :: place.position := by
    apply List.ext_getElem
    · simp [children]
    · intro index _ _
      simp [children]
  rw [positions]
  apply List.nodup_range.map
  intro first second same
  exact (List.cons.inj same).1

/-- No two places in a project have the same position. -/
theorem position_nodup (place : Place) :
    ((place :: place.below).map Place.position).Nodup := by
  induction place using induct with
  | step place inductionHypothesis =>
      rw [List.map_cons, List.nodup_cons]
      constructor
      · intro member
        obtain ⟨item, itemMember, same⟩ := List.mem_map.mp member
        have longer := position_length_lt itemMember
        rw [same] at longer
        exact Nat.lt_irrefl _ longer
      · rw [below_eq, List.map_flatMap, List.nodup_flatMap]
        refine ⟨inductionHypothesis, ?_⟩
        have distinct := List.pairwise_map.mp (children_position_nodup place)
        refine distinct.imp_of_mem ?_
        -- a position below two children would end with the positions of both
        intro first second firstMember secondMember different position inFirst inSecond
        obtain ⟨item, itemMember, rfl⟩ := List.mem_map.mp inFirst
        obtain ⟨other, otherMember, same⟩ := List.mem_map.mp inSecond
        obtain ⟨firstIndex, firstPosition⟩ := position_of_child firstMember
        obtain ⟨secondIndex, secondPosition⟩ := position_of_child secondMember
        have firstEnds := position_suffix itemMember
        have secondEnds := position_suffix otherMember
        rw [same] at secondEnds
        have sameLength : first.position.length = second.position.length := by
          rw [firstPosition, secondPosition, List.length_cons, List.length_cons]
        apply different
        have nested :=
          List.suffix_of_suffix_length_le firstEnds secondEnds (Nat.le_of_eq sameLength)
        exact nested.eq_of_length sameLength

end Place

end ApiDocs
