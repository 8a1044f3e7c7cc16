import ApiDocs.Proofs.Model.Shape
import ApiDocs.Proofs.Model.Store

/-!
# Projects of a model

The project that is read off a model has a place for each descendant of its declaration, in the
same order.  Leaving members out keeps the shape of a project.
-/

namespace ApiDocs

/-- What is known of a declaration, also where there is none. -/
def Model.declarationOf (model : Model) (key : Nat) : Declaration :=
  (model.declaration? key).getD (Declaration.ofName "" .project)

/-- The places below trees of a model belong to the descendants, one by one. -/
theorem Model.placesOfList_declarations
    (model : Model) (depth : Nat) (ancestors : List Declaration) (position : List Nat)
    (index : Nat) (keys : List Nat) :
    (Tree.placesOfList ancestors position index (keys.map (model.treeTo depth))).map
        Place.declaration =
      (keys.flatMap fun key => key :: model.descendantsTo depth key).map model.declarationOf := by
  induction depth generalizing ancestors position index keys with
  | zero =>
      induction keys generalizing index with
      | nil =>
          rfl
      | cons key keys inductionHypothesis =>
          have rest := inductionHypothesis (index + 1)
          rw [List.map_cons, Model.treeTo, Tree.placesOfList, Tree.places, Tree.placesOfList,
            List.map_append, rest]
          rfl
  | succ depth depthHypothesis =>
      induction keys generalizing index with
      | nil =>
          rfl
      | cons key keys inductionHypothesis =>
          rw [List.map_cons, Model.treeTo, Tree.placesOfList, Tree.places, List.map_append,
            inductionHypothesis, List.map_cons, depthHypothesis, List.flatMap_cons,
            List.map_append, List.map_cons, Model.descendantsTo]
          rfl

/-- The descendants of a project, as the model and as the project have them. -/
theorem Model.descendants_project (model : Model) (key : Nat) :
    (model.project key).descendants.map Place.declaration =
      (model.descendants key).map model.declarationOf := by
  rw [Project.descendants, Model.project, Model.descendants]
  cases h : model.size with
  | zero =>
      rfl
  | succ depth =>
      exact model.placesOfList_declarations depth _ [] 0 (model.children key)

theorem exists_related {First Second : Type} {relation : First → Second → Prop}
    {firsts : List First} {seconds : List Second}
    (sublist : List.SublistForall₂ relation firsts seconds) :
    ∀ first ∈ firsts, ∃ second ∈ seconds, relation first second := by
  induction sublist with
  | nil =>
      intro first member
      cases member
  | cons related _ inductionHypothesis =>
      intro first member
      rcases List.mem_cons.mp member with rfl | later
      · exact ⟨_, List.mem_cons_self, related⟩
      · obtain ⟨second, secondMember, secondRelated⟩ := inductionHypothesis first later
        exact ⟨second, List.mem_cons_of_mem _ secondMember, secondRelated⟩
  | cons_right _ inductionHypothesis =>
      intro first member
      obtain ⟨second, secondMember, secondRelated⟩ := inductionHypothesis first member
      exact ⟨second, List.mem_cons_of_mem _ secondMember, secondRelated⟩

namespace Tree

theorem Prunes.declaration_eq {tree fewer : Tree} (prunes : fewer.Prunes tree) :
    fewer.declaration = tree.declaration := by
  cases prunes
  rfl

/-- What is left of a tree of the usual shape has that shape. -/
theorem Shaped.prune {tree fewer : Tree} (prunes : fewer.Prunes tree) (shaped : tree.Shaped) :
    fewer.Shaped := by
  match tree, fewer, prunes with
  | .node declaration children, .node _ remaining, .node _ sublist =>
      cases shaped with
      | node kinds shapes =>
          have kept := exists_related sublist
          apply Tree.Shaped.node
          · intro child member
            obtain ⟨whole, wholeMember, pruned⟩ := kept child member
            rw [pruned.declaration_eq]
            exact kinds whole wholeMember
          · intro child member
            obtain ⟨whole, wholeMember, pruned⟩ := kept child member
            exact Shaped.prune pruned (shapes whole wholeMember)
termination_by sizeOf fewer

end Tree

end ApiDocs
