import ApiDocs.Proofs.Model.Forest
import Mathlib.Data.List.Perm.Subperm

/-!
# Traversals and full names in a forest

In a model that is a forest the bounded readers of the model reach all there is: a traversal meets
everything below a declaration, each once and behind what encloses it, and a full name is read off
the whole way up.
-/

namespace ApiDocs

namespace Model

variable {model : Model} {key : Nat} {path : List Nat}

/-! ## The length of the way up -/

namespace Forest

theorem parent_inside {child : Nat} (isChild : child ∈ model.children key) : key < model.size := by
  by_contra outside
  rw [children_of_size_le model (Nat.le_of_not_lt outside)] at isChild
  cases isChild

theorem child_inside (forest : model.Forest) {child : Nat} (isChild : child ∈ model.children key) :
    child < model.size := by
  by_contra outside
  have hasParent := (forest.linked key child).mpr isChild
  rw [parent?_of_size_le model (Nat.le_of_not_lt outside)] at hasParent
  cases hasParent

theorem child_lineage (forest : model.Forest) {child : Nat} (isChild : child ∈ model.children key)
    (lineage : model.Lineage key path) : model.Lineage child (child :: path) :=
  .child ((forest.linked key child).mpr isChild) lineage

theorem lineage_inside (forest : model.Forest) (inside : key < model.size)
    (lineage : model.Lineage key path) : ∀ member ∈ path, member < model.size := by
  induction lineage with
  | root => exact List.forall_mem_singleton.mpr inside
  | child isChild _ inductionHypothesis =>
      have listed := (forest.linked _ _).mp isChild
      exact List.forall_mem_cons.mpr ⟨inside, inductionHypothesis (parent_inside listed)⟩

/-- No way up is longer than there are declarations. -/
theorem lineage_length_le (forest : model.Forest) (inside : key < model.size)
    (lineage : model.Lineage key path) : path.length ≤ model.size := by
  have within : path ⊆ List.range model.size := fun member isAbove =>
    List.mem_range.mpr (forest.lineage_inside inside lineage member isAbove)
  calc path.length ≤ (List.range model.size).length :=
        (lineage.nodup.subperm within).length_le
    _ = model.size := List.length_range

/-- What holds of a declaration as soon as it holds of its children holds of every declaration. -/
theorem downward (forest : model.Forest) {motive : Nat → Prop}
    (step : ∀ key, (∀ child ∈ model.children key, motive child) → motive key) (key : Nat) :
    motive key := by
  obtain ⟨path, lineage⟩ := forest.ends key
  induction rest : model.size - path.length using Nat.strong_induction_on
    generalizing key path with
  | _ rest inductionHypothesis =>
      apply step
      intro child isChild
      have childLineage := forest.child_lineage isChild lineage
      have longer := forest.lineage_length_le (forest.child_inside isChild) childLineage
      rw [List.length_cons] at longer
      apply inductionHypothesis (model.size - (child :: path).length) _ child _ childLineage rfl
      rw [List.length_cons]
      omega

/-! ## Traversals -/

/-- Below a declaration whose way up is long there is little depth. -/
theorem descendantsTo_succ (forest : model.Forest) {depth : Nat}
    (lineage : model.Lineage key path) (deep : model.size ≤ path.length + depth) :
    model.descendantsTo (depth + 1) key = model.descendantsTo depth key := by
  induction depth generalizing key path with
  | zero =>
      have childless : model.children key = [] := by
        rw [List.eq_nil_iff_forall_not_mem]
        intro child isChild
        have longer := forest.lineage_length_le (forest.child_inside isChild)
          (forest.child_lineage isChild lineage)
        rw [List.length_cons] at longer
        omega
      rw [descendantsTo, descendantsTo, childless, List.flatMap_nil]
  | succ depth inductionHypothesis =>
      have each : ∀ child ∈ model.children key,
          child :: model.descendantsTo (depth + 1) child =
            child :: model.descendantsTo depth child := by
        intro child isChild
        have deepEnough : model.size ≤ (child :: path).length + depth := by
          rw [List.length_cons]
          omega
        rw [inductionHypothesis (forest.child_lineage isChild lineage) deepEnough]
      calc model.descendantsTo (depth + 1 + 1) key
          = (model.children key).flatMap fun child =>
              child :: model.descendantsTo (depth + 1) child := by rw [descendantsTo]
        _ = (model.children key).flatMap fun child =>
              child :: model.descendantsTo depth child := List.flatMap_congr each
        _ = model.descendantsTo (depth + 1) key := by rw [descendantsTo]

/-- A traversal goes through the children, each followed by the traversal of what is below it. -/
theorem descendants_eq (forest : model.Forest) (key : Nat) :
    model.descendants key =
      (model.children key).flatMap fun child => child :: model.descendants child := by
  obtain ⟨path, lineage⟩ := forest.ends key
  have deep : model.size ≤ path.length + model.size := Nat.le_add_left _ _
  rw [descendants, ← forest.descendantsTo_succ lineage deep, descendantsTo]
  rfl

theorem mem_descendants (forest : model.Forest) {item : Nat} :
    item ∈ model.descendants key ↔ model.Encloses key item := by
  induction key using forest.downward with
  | step key inductionHypothesis =>
      rw [forest.descendants_eq, List.mem_flatMap, encloses_iff_child]
      refine exists_congr fun child => ?_
      rw [forest.linked]
      refine and_congr_right fun isChild => ?_
      rw [List.mem_cons, inductionHypothesis child isChild]

/-- What is below a declaration is met right behind it, also when the traversal begins further
up. -/
theorem descendants_sublist (forest : model.Forest) {item : Nat}
    (encloses : model.Encloses key item) :
    (item :: model.descendants item).Sublist (model.descendants key) := by
  induction key using forest.downward with
  | step key inductionHypothesis =>
      obtain ⟨child, isParent, way⟩ := encloses_iff_child.mp encloses
      have isChild := (forest.linked key child).mp isParent
      have segment : (child :: model.descendants child).Sublist (model.descendants key) := by
        rw [forest.descendants_eq key]
        have single := (List.singleton_sublist.mpr isChild).flatMap
          fun child => child :: model.descendants child
        rw [List.flatMap_singleton] at single
        exact single
      rcases way with rfl | below
      · exact segment
      · have deeper := inductionHypothesis child isChild below
        exact (deeper.trans (List.sublist_cons_self _ _)).trans segment

theorem sublist_flatMap_cons {Item : Type} (items : List Item) (further : Item → List Item) :
    items.Sublist (items.flatMap fun item => item :: further item) := by
  induction items with
  | nil => exact List.Sublist.refl []
  | cons item items inductionHypothesis =>
      rw [List.flatMap_cons, List.cons_append]
      exact (inductionHypothesis.trans (List.sublist_append_right _ _)).cons_cons item

/-- The children of what is met are met in their order. -/
theorem children_sublist (forest : model.Forest) {parent : Nat}
    (within : parent = key ∨ model.Encloses key parent) :
    (model.children parent).Sublist (model.descendants key) := by
  have own : (model.children parent).Sublist (model.descendants parent) := by
    rw [forest.descendants_eq]
    exact sublist_flatMap_cons _ _
  rcases within with rfl | below
  · exact own
  · exact own.trans ((List.sublist_cons_self _ _).trans (forest.descendants_sublist below))

theorem outer_sublist (forest : model.Forest) {outer inner : Nat}
    (met : outer ∈ model.descendants key) (encloses : model.Encloses outer inner) :
    [outer, inner].Sublist (model.descendants key) := by
  have behind : [inner].Sublist (model.descendants outer) :=
    List.singleton_sublist.mpr (forest.mem_descendants.mpr encloses)
  exact (behind.cons_cons outer).trans (forest.descendants_sublist (forest.mem_descendants.mp met))

/-- Nothing is below two children, or is one of them and below the other. -/
theorem sibling_eq (forest : model.Forest) {first second item : Nat}
    (firstChild : first ∈ model.children key) (secondChild : second ∈ model.children key)
    (inFirst : item ∈ first :: model.descendants first)
    (inSecond : item ∈ second :: model.descendants second) :
    first = second := by
  obtain ⟨way, itemLineage⟩ := forest.ends item
  obtain ⟨path, lineage⟩ := forest.ends key
  have above {child : Nat} (isChild : child ∈ model.children key)
      (within : item ∈ child :: model.descendants child) : child :: path <:+ way := by
    have onWay : child ∈ way := by
      rw [itemLineage.mem_iff, ← forest.mem_descendants, eq_comm]
      exact List.mem_cons.mp within
    obtain ⟨rest, childLineage, isSuffix⟩ := itemLineage.exists_suffix onWay
    rw [childLineage.unique (forest.child_lineage isChild lineage)] at isSuffix
    exact isSuffix
  have nested := List.suffix_of_suffix_length_le (above firstChild inFirst)
    (above secondChild inSecond) (Nat.le_refl _)
  exact (List.cons.inj (nested.eq_of_length rfl)).1

theorem descendants_nodup (forest : model.Forest) (key : Nat) : (model.descendants key).Nodup := by
  induction key using forest.downward with
  | step key inductionHypothesis =>
      rw [forest.descendants_eq, List.nodup_flatMap]
      constructor
      · intro child isChild
        refine List.nodup_cons.mpr ⟨fun member => ?_, inductionHypothesis child isChild⟩
        obtain ⟨path, lineage⟩ := forest.ends child
        exact lineage.not_encloses (forest.mem_descendants.mp member)
      · refine (forest.once key).imp_of_mem ?_
        intro first second firstChild secondChild different item inFirst inSecond
        exact different (forest.sibling_eq firstChild secondChild inFirst inSecond)

end Forest

/-! ## Full names -/

/-- The way up that gives a declaration its full name, with the names that are met on it, the
outermost first.  It ends below the first project, or where there is no parent. -/
inductive Climbs (model : Model) : Nat → List String → Prop where
  | project {key : Nat} {declaration : Declaration} :
      model.declaration? key = some declaration → declaration.kind = .project →
      Climbs model key []
  | root {key : Nat} {declaration : Declaration} :
      model.declaration? key = some declaration → declaration.kind ≠ .project →
      model.parent? key = none → Climbs model key [declaration.name]
  | child {key parent : Nat} {declaration : Declaration} {names : List String} :
      model.declaration? key = some declaration → declaration.kind ≠ .project →
      model.parent? key = some parent → Climbs model parent names →
      Climbs model key (names ++ [declaration.name])

/-- The names on a way up, the outermost first. -/
def names (model : Model) (path : List Nat) : List String :=
  (((path.filterMap model.declaration?).takeWhile fun declaration =>
    declaration.kind ≠ .project).map Declaration.name).reverse

section Names

variable {declaration : Declaration} (found : model.declaration? key = some declaration)
include found

theorem names_of_project (isProject : declaration.kind = .project) (above : List Nat) :
    model.names (key :: above) = [] := by
  rw [names, List.filterMap_cons_some found, List.takeWhile_cons_of_neg (by simp [isProject])]
  rfl

theorem names_cons (noProject : declaration.kind ≠ .project) (above : List Nat) :
    model.names (key :: above) = model.names above ++ [declaration.name] := by
  rw [names, List.filterMap_cons_some found, List.takeWhile_cons_of_pos (by simp [noProject]),
    List.map_cons, List.reverse_cons, names]

end Names

namespace Lineage

theorem climbs (lineage : model.Lineage key path)
    (inside : ∀ member ∈ path, member < model.size) :
    model.Climbs key (model.names path) := by
  induction lineage with
  | root isRoot =>
      obtain ⟨declaration, found⟩ :=
        model.exists_declaration? (inside _ List.mem_cons_self)
      by_cases isProject : declaration.kind = .project
      · rw [names_of_project found isProject]
        exact .project found isProject
      · rw [names_cons found isProject]
        exact .root found isProject isRoot
  | child isChild _ inductionHypothesis =>
      obtain ⟨keyInside, aboveInside⟩ := List.forall_mem_cons.mp inside
      obtain ⟨declaration, found⟩ := model.exists_declaration? keyInside
      by_cases isProject : declaration.kind = .project
      · rw [names_of_project found isProject]
        exact .project found isProject
      · rw [names_cons found isProject]
        exact .child found isProject isChild (inductionHypothesis aboveInside)

/-- A bound that a way up does not pass does not cut it. -/
theorem chainUpTo_eq (lineage : model.Lineage key path)
    (inside : ∀ member ∈ path, member < model.size) {bound : Nat} (enough : path.length ≤ bound) :
    model.chainUpTo bound key = path.filterMap model.declaration? := by
  induction lineage generalizing bound with
  | @root key isRoot =>
      obtain ⟨fewer, rfl⟩ := Nat.exists_eq_add_of_le' enough
      obtain ⟨node, found, declared, parent⟩ :=
        model.exists_node? (inside key List.mem_cons_self)
      rw [List.filterMap_cons_some declared]
      simp only [List.length_singleton, chainUpTo, found, ← parent, isRoot, List.filterMap_nil]
  | @child key parent above isChild _ inductionHypothesis =>
      obtain ⟨keyInside, aboveInside⟩ := List.forall_mem_cons.mp inside
      obtain ⟨fewer, rfl⟩ := Nat.exists_eq_add_of_le' enough
      obtain ⟨node, found, declared, parent⟩ := model.exists_node? keyInside
      have further := inductionHypothesis aboveInside (Nat.le_add_left above.length fewer)
      rw [List.filterMap_cons_some declared, ← further, List.length_cons, ← Nat.add_assoc]
      simp only [chainUpTo, found, ← parent, isChild]

end Lineage

theorem Forest.fullName_eq (forest : model.Forest) (inside : key < model.size) :
    ∃ names, model.Climbs key names ∧ model.fullName key = ".".intercalate names := by
  obtain ⟨path, lineage⟩ := forest.ends key
  have within := forest.lineage_inside inside lineage
  refine ⟨_, lineage.climbs within, ?_⟩
  rw [fullName, chain, lineage.chainUpTo_eq within (forest.lineage_length_le inside lineage)]
  rfl

/-! ## Models that are reached -/

/-- A traversal meets what is enclosed, each once, behind what encloses it, and siblings in the
order in which they were added. -/
structure Traversed (model : Model) (changes : List Change) (key : Nat) : Prop where
  depthFirst : model.descendants key =
    (model.children key).flatMap fun child => child :: model.descendants child
  meets : ∀ item, item ∈ model.descendants key ↔ model.Encloses key item
  once : (model.descendants key).Nodup
  outerFirst : ∀ outer ∈ model.descendants key, ∀ inner, model.Encloses outer inner →
    [outer, inner].Sublist (model.descendants key)
  siblings : ∀ parent, parent = key ∨ model.Encloses key parent →
    (model.children parent).Sublist (model.descendants key) ∧
      (model.children parent).Pairwise fun first second =>
        addedAt first changes < addedAt second changes

/-- A model stays a forest, whatever is created, added and removed, as long as nothing is added
that has a parent or encloses what it is added to.  The parents and the lists of children say the
same, nothing is listed twice and nothing encloses itself; the way up to a full name ends; a
removal does nothing but for a child; and traversals are complete and in order. -/
theorem reached_stays_forest {changes : List Change} (reached : Reached changes model) :
    (∀ parent child, model.parent? child = some parent ↔ child ∈ model.children parent) ∧
      (∀ parent, ∀ child ∈ model.children parent, (model.children parent).count child = 1) ∧
      (∀ key, ¬ model.Encloses key key) ∧
      (∀ key < model.size, ∃ names,
        model.Climbs key names ∧ model.fullName key = ".".intercalate names) ∧
      (∀ parent child,
        ((model.removeChild parent child).1 = true ↔ child ∈ model.children parent) ∧
          ((model.removeChild parent child).1 = false →
            (model.removeChild parent child).2 = model)) ∧
      ∀ key, model.Traversed changes key := by
  have forest := reached.forest
  refine ⟨forest.linked, ?once, ?acyclic, fun key inside => forest.fullName_eq inside, ?removal,
    ?traversal⟩
  case once =>
    intro parent child isChild
    exact List.count_eq_one_of_mem (forest.once parent) isChild
  case acyclic =>
    intro key
    obtain ⟨path, lineage⟩ := forest.ends key
    exact lineage.not_encloses
  case removal =>
    intro parent child
    by_cases isChild : child ∈ model.children parent
    · rw [removeChild_of_mem isChild]
      exact ⟨iff_of_true rfl isChild, fun isFalse => nomatch isFalse⟩
    · rw [removeChild_of_notMem isChild]
      exact ⟨iff_of_false Bool.false_ne_true isChild, fun _ => rfl⟩
  case traversal =>
    intro key
    exact {
      depthFirst := forest.descendants_eq key
      meets := fun item => forest.mem_descendants
      once := forest.descendants_nodup key
      outerFirst := fun outer met inner encloses => forest.outer_sublist met encloses
      siblings := fun parent within =>
        ⟨forest.children_sublist within, reached.children_pairwise parent⟩ }

/-- A project, a module, a function and a class.  The function is added to the module, removed and
added again behind the class; the module comes to the project last. -/
def sampleChanges : List Change :=
  [.add 0 1, .add 1 2, .remove 1 2, .add 1 3, .add 1 2, .create (.ofName "C" .classDefinition),
    .create (.ofName "f" .function), .create (.ofName "m" .moduleFile),
    .createProject (.ofName "p" .project) ""]

def sampleModel : Model := sampleChanges.foldr (fun change model => change.apply model) .empty

theorem reached_stays_forest_of_sample :
    Reached sampleChanges sampleModel ∧ sampleModel.descendants 0 = [1, 3, 2] ∧
      sampleModel.Traversed sampleChanges 0 := by
  have reached : Reached sampleChanges sampleModel := by
    refine .step _ (.step _ (.step _ (.step _ (.step _ (.step _ (.step _ (.step _ (.step _ .empty
      trivial) trivial) trivial) trivial) ?_) ?_) trivial) ?_) ?_
    all_goals
      refine ⟨by decide, by decide, by decide, by decide, not_encloses_of_root ?_⟩
      decide
  obtain ⟨_, _, _, _, _, traversed⟩ := reached_stays_forest reached
  exact ⟨reached, by decide, traversed 0⟩

end Model

end ApiDocs
