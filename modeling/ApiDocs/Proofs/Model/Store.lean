import ApiDocs.Model.Hidden
import ApiDocs.Model.Tree
import Mathlib.Data.List.Flatten
import Mathlib.Data.List.Forall2
import Mathlib.Logic.Function.Iterate

/-!
# Changes of a model

What the changes of a model do to its declarations and to the lists of children, and what they do
to the trees and descendants that are read off these.
-/

namespace ApiDocs

namespace Model

variable (model : Model)

/-! ## Single changes -/

theorem node?_modify (key other : Nat) (change : Node → Node) :
    (model.modify key change).node? other =
      if key = other then (model.node? other).map change else model.node? other := by
  rw [node?, modify, Array.getElem?_modify]
  rfl

@[simp]
theorem size_modify (key : Nat) (change : Node → Node) :
    (model.modify key change).size = model.size :=
  Array.size_modify

theorem declaration?_modify
    (key other : Nat) {change : Node → Node}
    (same : ∀ node, (change node).declaration = node.declaration) :
    (model.modify key change).declaration? other = model.declaration? other := by
  rw [declaration?, declaration?, node?_modify]
  split
  · rw [Option.map_map]
    congr 1
    funext node
    exact same node
  · rfl

theorem children_modify
    (key other : Nat) {change : Node → Node}
    (same : ∀ node, (change node).children = node.children) :
    (model.modify key change).children other = model.children other := by
  rw [children, children, node?_modify]
  split
  · rw [Option.map_map]
    congr 2
    funext node
    exact same node
  · rfl

theorem children_modify_children
    (key other : Nat) (change : List Nat → List Nat) :
    (model.modify key fun node => { node with children := change node.children }).children other =
      if key = other ∧ key < model.size then change (model.children other)
      else model.children other := by
  rw [children, children, node?_modify]
  by_cases same : key = other
  · subst same
    by_cases inside : key < model.size
    · have found : model.node? key = some model.nodes[key] := Array.getElem?_eq_getElem inside
      simp [found, inside]
    · have missing : model.node? key = none := Array.getElem?_eq_none (Nat.le_of_not_lt inside)
      simp [missing, inside]
  · simp [same]

/-- The readme of a project. -/
def readme? (key : Nat) : Option String := (model.node? key).bind Node.readme

theorem readme?_modify
    (key other : Nat) {change : Node → Node}
    (same : ∀ node, (change node).readme = node.readme) :
    (model.modify key change).readme? other = model.readme? other := by
  rw [readme?, readme?, node?_modify]
  split
  · cases model.node? other with
    | none => rfl
    | some node => exact same node
  · rfl

theorem parent?_modify
    (key other : Nat) {change : Node → Node} (same : ∀ node, (change node).parent = node.parent) :
    (model.modify key change).parent? other = model.parent? other := by
  rw [parent?, parent?, node?_modify]
  split
  · cases model.node? other with
    | none => rfl
    | some node => exact same node
  · rfl

/-- A new parent is given to one declaration. -/
theorem parent?_modify_parent (key other : Nat) (parent : Option Nat) :
    (model.modify key fun node => { node with parent := parent }).parent? other =
      if key = other ∧ key < model.size then parent else model.parent? other := by
  rw [parent?, parent?, node?_modify]
  by_cases same : key = other
  · subst same
    by_cases inside : key < model.size
    · have found : model.node? key = some model.nodes[key] := Array.getElem?_eq_getElem inside
      simp [found, inside]
    · have missing : model.node? key = none := Array.getElem?_eq_none (Nat.le_of_not_lt inside)
      simp [missing, inside]
  · simp [same]

theorem children_of_size_le {key : Nat} (outside : model.size ≤ key) : model.children key = [] := by
  have missing : model.node? key = none := Array.getElem?_eq_none outside
  rw [children, missing]
  rfl

theorem parent?_of_size_le {key : Nat} (outside : model.size ≤ key) : model.parent? key = none := by
  have missing : model.node? key = none := Array.getElem?_eq_none outside
  rw [parent?, missing]
  rfl

theorem exists_node? {key : Nat} (inside : key < model.size) :
    ∃ node, model.node? key = some node ∧ model.declaration? key = some node.declaration ∧
      model.parent? key = node.parent := by
  have found : model.node? key = some model.nodes[key] := Array.getElem?_eq_getElem inside
  refine ⟨_, found, ?_, ?_⟩
  · rw [declaration?, found]
    rfl
  · rw [parent?, found]
    rfl

theorem exists_declaration? {key : Nat} (inside : key < model.size) :
    ∃ declaration, model.declaration? key = some declaration := by
  obtain ⟨node, _, declared, _⟩ := model.exists_node? inside
  exact ⟨node.declaration, declared⟩

/-! ## A new child -/

@[simp]
theorem size_addChild (parent child : Nat) : (model.addChild parent child).size = model.size := by
  rw [addChild, size_modify, size_modify]

theorem parent?_addChild {child : Nat} (inside : child < model.size) (parent key : Nat) :
    (model.addChild parent child).parent? key =
      if key = child then some parent else model.parent? key := by
  rw [addChild, parent?_modify, parent?_modify_parent]
  · by_cases same : key = child
    · rw [if_pos ⟨same.symm, inside⟩, if_pos same]
    · rw [if_neg fun both => same both.1.symm, if_neg same]
  · intro node
    rfl

theorem children_addChild {parent : Nat} (inside : parent < model.size) (child key : Nat) :
    (model.addChild parent child).children key =
      if key = parent then model.children key ++ [child] else model.children key := by
  have before : (model.modify child fun node => { node with parent := some parent }).children key =
      model.children key :=
    children_modify _ _ _ fun _ => rfl
  rw [addChild, children_modify_children _ _ _ fun children => children ++ [child], before,
    size_modify]
  by_cases same : key = parent
  · rw [if_pos ⟨same.symm, inside⟩, if_pos same]
  · rw [if_neg fun both => same both.1.symm, if_neg same]

/-! ## A new declaration -/

theorem node?_push (node : Node) (key : Nat) :
    (Model.mk (model.nodes.push node)).node? key =
      if key = model.size then some node else model.node? key := by
  rw [node?, Array.getElem?_push]
  rfl

@[simp]
theorem size_create (declaration : Declaration) :
    (model.create declaration).size = model.size + 1 :=
  Array.size_push _

theorem declaration?_create (declaration : Declaration) (key : Nat) :
    (model.create declaration).declaration? key =
      if key = model.size then some declaration else model.declaration? key := by
  rw [declaration?, create, node?_push]
  split <;> rfl

/-- A new declaration without children changes no list of children. -/
theorem children_push {node : Node} (childless : node.children = []) (key : Nat) :
    (Model.mk (model.nodes.push node)).children key = model.children key := by
  rw [children, node?_push]
  split
  · rename_i isNew
    rw [isNew, children_of_size_le model (Nat.le_refl model.size)]
    exact childless
  · rfl

/-- A new declaration without a parent changes no parent. -/
theorem parent?_push {node : Node} (orphan : node.parent = none) (key : Nat) :
    (Model.mk (model.nodes.push node)).parent? key = model.parent? key := by
  rw [parent?, node?_push]
  split
  · rename_i isNew
    rw [isNew, parent?_of_size_le model (Nat.le_refl model.size)]
    exact orphan
  · rfl

theorem children_create (declaration : Declaration) (key : Nat) :
    (model.create declaration).children key = model.children key :=
  model.children_push rfl key

theorem parent?_create (declaration : Declaration) (key : Nat) :
    (model.create declaration).parent? key = model.parent? key :=
  model.parent?_push rfl key

@[simp]
theorem size_createProject (declaration : Declaration) (readme : String) :
    (model.createProject declaration readme).size = model.size + 1 :=
  Array.size_push _

theorem node?_createProject (declaration : Declaration) (readme : String) :
    (model.createProject declaration readme).node? model.size =
      some { declaration, children := [], parent := none, readme := some readme } :=
  Array.getElem?_push_size

theorem declaration?_createProject (declaration : Declaration) (readme : String) :
    (model.createProject declaration readme).declaration? model.size = some declaration := by
  rw [declaration?, node?_createProject]
  rfl

theorem readme?_createProject (declaration : Declaration) (readme : String) :
    (model.createProject declaration readme).readme? model.size = some readme := by
  rw [readme?, node?_createProject]
  rfl

theorem children_createProject (declaration : Declaration) (readme : String) :
    (model.createProject declaration readme).children model.size = [] :=
  (model.children_push rfl model.size).trans (children_of_size_le model (Nat.le_refl model.size))

/-- A declaration is created as the last child of another one. -/
def attach (parent : Nat) (declaration : Declaration) : Model :=
  (model.create declaration).addChild parent model.size

@[simp]
theorem size_attach (parent : Nat) (declaration : Declaration) :
    (model.attach parent declaration).size = model.size + 1 := by
  rw [attach, size_addChild, size_create]

theorem declaration?_attach (parent : Nat) (declaration : Declaration) (key : Nat) :
    (model.attach parent declaration).declaration? key =
      if key = model.size then some declaration else model.declaration? key := by
  rw [attach, addChild, declaration?_modify, declaration?_modify, declaration?_create]
  · intro node
    rfl
  · intro node
    rfl

theorem readme?_attach
    {key : Nat} (inside : key < model.size) (parent : Nat) (declaration : Declaration) :
    (model.attach parent declaration).readme? key = model.readme? key := by
  have created : (model.create declaration).readme? key = model.readme? key := by
    rw [readme?, create, node?_push, if_neg (Nat.ne_of_lt inside)]
    rfl
  rw [attach, addChild, readme?_modify, readme?_modify, created]
  · intro node
    rfl
  · intro node
    rfl

/-- A new declaration has the parent that it is attached to, and no other parent changes. -/
theorem parent?_attach (parent : Nat) (declaration : Declaration) (key : Nat) :
    (model.attach parent declaration).parent? key =
      if key = model.size then some parent else model.parent? key := by
  have inside : model.size < (model.create declaration).size := by
    rw [size_create]
    exact Nat.lt_succ_self _
  rw [attach, parent?_addChild _ inside, parent?_create]

theorem children_attach
    {parent : Nat} (inside : parent < model.size) (declaration : Declaration) (key : Nat) :
    (model.attach parent declaration).children key =
      if key = parent then model.children key ++ [model.size] else model.children key := by
  have stillInside : parent < (model.create declaration).size := by
    rw [size_create]
    exact Nat.lt_succ_of_lt inside
  rw [attach, children_addChild _ stillInside, children_create]

/-! ## Removal -/

/-- Some children have been removed; all else is as before. -/
structure Shrinks (model smaller : Model) : Prop where
  size : smaller.size = model.size
  declaration? : ∀ key, smaller.declaration? key = model.declaration? key
  children : ∀ key, (smaller.children key).Sublist (model.children key)

variable {model} {smaller smallest : Model}

theorem Shrinks.refl (model : Model) : model.Shrinks model where
  size := rfl
  declaration? _ := rfl
  children _ := List.Sublist.refl _

theorem Shrinks.trans (first : model.Shrinks smaller) (second : smaller.Shrinks smallest) :
    model.Shrinks smallest where
  size := second.size.trans first.size
  declaration? key := (second.declaration? key).trans (first.declaration? key)
  children key := (second.children key).trans (first.children key)

theorem removeChild_of_notMem {parent child : Nat} (absent : child ∉ model.children parent) :
    model.removeChild parent child = (false, model) := by
  rw [removeChild, if_neg (by simpa using absent)]

theorem removeChild_of_mem {parent child : Nat} (member : child ∈ model.children parent) :
    model.removeChild parent child =
      (true, (model.modify parent fun node =>
        { node with children := node.children.erase child }).modify child fun node =>
          { node with parent := none }) := by
  rw [removeChild, if_pos (by simpa using member)]

theorem parent?_removeChild {parent child : Nat} (member : child ∈ model.children parent)
    (key : Nat) :
    (model.removeChild parent child).2.parent? key =
      if key = child then none else model.parent? key := by
  have before : (model.modify parent fun node =>
      { node with children := node.children.erase child }).parent? key = model.parent? key :=
    parent?_modify _ _ _ fun _ => rfl
  rw [removeChild_of_mem member, parent?_modify_parent, before, size_modify]
  by_cases same : key = child
  · by_cases inside : child < model.size
    · rw [if_pos ⟨same.symm, inside⟩, if_pos same]
    · rw [if_neg fun both => inside both.2, if_pos same, same,
        parent?_of_size_le model (Nat.le_of_not_lt inside)]
  · rw [if_neg fun both => same both.1.symm, if_neg same]

theorem children_removeChild {parent child : Nat} (member : child ∈ model.children parent)
    (key : Nat) :
    (model.removeChild parent child).2.children key =
      if key = parent then (model.children key).erase child else model.children key := by
  have inside : parent < model.size := by
    by_contra outside
    rw [children_of_size_le model (Nat.le_of_not_lt outside)] at member
    cases member
  have orphaned : (model.removeChild parent child).2.children key =
      (model.modify parent fun node =>
        { node with children := node.children.erase child }).children key := by
    rw [removeChild_of_mem member]
    exact children_modify _ _ _ fun _ => rfl
  rw [orphaned, children_modify_children _ _ _ fun children => children.erase child]
  by_cases same : key = parent
  · rw [if_pos ⟨same.symm, inside⟩, if_pos same]
  · rw [if_neg fun both => same both.1.symm, if_neg same]

theorem removeChild_shrinks (model : Model) (parent child : Nat) :
    model.Shrinks (model.removeChild parent child).2 := by
  rw [removeChild]
  split
  · refine ⟨by simp, ?_, ?_⟩
    · intro key
      simp only
      rw [declaration?_modify, declaration?_modify]
      · intro node
        rfl
      · intro node
        rfl
    · intro key
      have erased :=
        children_modify_children model parent key fun children => children.erase child
      simp only
      rw [children_modify, erased]
      · split
        · exact List.erase_sublist
        · exact List.Sublist.refl _
      · intro node
        rfl
  · exact Shrinks.refl model

theorem detach_shrinks (model : Model) (key : Nat) : model.Shrinks (model.detach key) := by
  rw [detach]
  split
  · exact removeChild_shrinks model _ key
  · exact Shrinks.refl model

/-- Hiding declarations removes children and does nothing else. -/
theorem removeHidden_shrinks (model : Model) (key : Nat) :
    model.Shrinks (model.removeHidden key) := by
  rw [removeHidden]
  generalize (model.descendants key).filter model.isHidden = hidden
  induction hidden generalizing model with
  | nil =>
      exact Shrinks.refl model
  | cons first rest inductionHypothesis =>
      exact (detach_shrinks model first).trans (inductionHypothesis (model.detach first))

theorem removeHidden_iterate_shrinks (model : Model) (key times : Nat) :
    model.Shrinks ((fun model => model.removeHidden key)^[times] model) := by
  induction times generalizing model with
  | zero =>
      exact Shrinks.refl model
  | succ times inductionHypothesis =>
      rw [Function.iterate_succ_apply]
      exact (removeHidden_shrinks model key).trans (inductionHypothesis (model.removeHidden key))

/-! ## What is below a declaration -/

theorem Shrinks.descendantsTo (shrinks : model.Shrinks smaller) (depth key : Nat) :
    (smaller.descendantsTo depth key).Sublist (model.descendantsTo depth key) := by
  induction depth generalizing key with
  | zero =>
      exact List.Sublist.refl []
  | succ depth inductionHypothesis =>
      rw [Model.descendantsTo, Model.descendantsTo]
      refine ((shrinks.children key).flatMap _).trans ?_
      apply List.Sublist.flatMap_right
      intro child _
      exact (inductionHypothesis child).cons_cons child

theorem Shrinks.descendants (shrinks : model.Shrinks smaller) (key : Nat) :
    (smaller.descendants key).Sublist (model.descendants key) := by
  rw [Model.descendants, Model.descendants, shrinks.size]
  exact shrinks.descendantsTo model.size key

/-- Children are younger than what they are children of, from a declaration on. -/
def Ascending (model : Model) (start : Nat) : Prop :=
  ∀ parent, start ≤ parent → ∀ child ∈ model.children parent, parent < child ∧ child < model.size

theorem Shrinks.ascending {start : Nat} (shrinks : model.Shrinks smaller)
    (ascending : model.Ascending start) : smaller.Ascending start := by
  intro parent later child member
  rw [shrinks.size]
  exact ascending parent later child ((shrinks.children parent).mem member)

/-- Where children are younger than their parents, no descendant is too deep to be reached. -/
theorem mem_descendantsTo_of_ascending
    {start key depth : Nat} (ascending : model.Ascending start) (later : start ≤ key)
    (deep : model.size ≤ key + depth)
    {parent : Nat} (parentMember : parent ∈ key :: model.descendantsTo depth key)
    {child : Nat} (member : child ∈ model.children parent) :
    child ∈ model.descendantsTo depth key := by
  induction depth generalizing key with
  | zero =>
      rw [Model.descendantsTo, List.mem_singleton] at parentMember
      have bounds := ascending parent (by omega) child member
      omega
  | succ depth inductionHypothesis =>
      rw [Model.descendantsTo]
      rcases List.mem_cons.mp parentMember with rfl | below
      · exact List.mem_flatMap.mpr ⟨child, member, List.mem_cons_self⟩
      · rw [Model.descendantsTo] at below
        obtain ⟨top, topMember, inside⟩ := List.mem_flatMap.mp below
        have bounds := ascending key later top topMember
        refine List.mem_flatMap.mpr ⟨top, topMember, List.mem_cons_of_mem _ ?_⟩
        exact inductionHypothesis (by omega) (by omega) inside

end Model

/-! ## Trees with members left out -/

/-- A tree in which some members have been left out, in any depth. -/
inductive Tree.Prunes : Tree → Tree → Prop where
  | node (declaration : Declaration) {children fewer : List Tree} :
      List.SublistForall₂ Tree.Prunes fewer children →
      Tree.Prunes (.node declaration fewer) (.node declaration children)

theorem sublistForall₂_map {Item First Second : Type} {relation : First → Second → Prop}
    {first : Item → First} {second : Item → Second} {items fewer : List Item}
    (sublist : fewer.Sublist items) (related : ∀ item, relation (first item) (second item)) :
    List.SublistForall₂ relation (fewer.map first) (items.map second) := by
  induction sublist with
  | slnil =>
      exact List.SublistForall₂.nil
  | cons item _ inductionHypothesis =>
      exact List.SublistForall₂.cons_right inductionHypothesis
  | cons_cons item _ inductionHypothesis =>
      exact List.SublistForall₂.cons (related item) inductionHypothesis

theorem Model.Shrinks.treeTo {model smaller : Model} (shrinks : model.Shrinks smaller)
    (depth key : Nat) :
    (smaller.treeTo depth key).Prunes (model.treeTo depth key) := by
  induction depth generalizing key with
  | zero =>
      rw [Model.treeTo, Model.treeTo, shrinks.declaration?]
      exact Tree.Prunes.node _ List.SublistForall₂.nil
  | succ depth inductionHypothesis =>
      rw [Model.treeTo, Model.treeTo, shrinks.declaration?]
      exact Tree.Prunes.node _ (sublistForall₂_map (shrinks.children key) inductionHypothesis)

end ApiDocs
