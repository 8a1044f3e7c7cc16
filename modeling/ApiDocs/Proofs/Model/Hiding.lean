import ApiDocs.Proofs.Model.Projects
import ApiDocs.Proofs.Model.Traversal

/-!
# Hidden declarations

The hidden descendants of a declaration are collected first and then taken away from their parents
one after the other, also those that are no longer below the declaration by then.  In a forest this
leaves what recursive pruning leaves: every declaration stays that is not hidden and not inside of
a hidden one, where it was and as it was.
-/

namespace ApiDocs

/-! ## Trees without hidden members -/

mutual

/-- A tree without the hidden declarations below its root and what these enclose. -/
def Tree.shown : Tree → Tree
  | .node declaration children => .node declaration (Tree.shownOfList children)

def Tree.shownOfList : List Tree → List Tree
  | [] => []
  | tree :: trees =>
    if isHiddenComment tree.declaration.comment then Tree.shownOfList trees
    else tree.shown :: Tree.shownOfList trees

end

theorem Tree.shownOfList_map {Item : Type} (tree : Item → Tree) (items : List Item) :
    Tree.shownOfList (items.map tree) =
      (items.filter fun item => !isHiddenComment (tree item).declaration.comment).map
        fun item => (tree item).shown := by
  induction items with
  | nil => simp [Tree.shownOfList]
  | cons item items inductionHypothesis =>
      rw [List.map_cons, Tree.shownOfList, inductionHypothesis]
      by_cases hidden : isHiddenComment (tree item).declaration.comment = true <;> simp [hidden]

namespace Model

variable {model middle smaller : Model} {key item parent : Nat}

/-! ## What is hidden -/

/-- A line of the comment of a declaration holds the tag and nothing else. -/
def Tagged (model : Model) (item : Nat) : Prop :=
  ∃ declaration, model.declaration? item = some declaration ∧
    ∃ line ∈ Text.lines declaration.comment.toList, Text.trim line = hiddenTag.toList

theorem isHidden_iff : model.isHidden item = true ↔ model.Tagged item := by
  rw [isHidden, Tagged]
  cases model.declaration? item <;> simp [isHiddenComment]

theorem isHidden_eq : model.isHidden item = isHiddenComment (model.declarationOf item).comment := by
  rw [isHidden, declarationOf]
  cases model.declaration? item with
  | none => decide
  | some declaration => rfl

/-- What is below a declaration, is not hidden, and stands in nothing hidden on the way there. -/
structure Shown (model : Model) (key item : Nat) : Prop where
  inside : model.Encloses key item
  untagged : ¬ model.Tagged item
  clear : ∀ outer, model.Encloses key outer → model.Encloses outer item → ¬ model.Tagged outer

theorem Forest.not_encloses (forest : model.Forest) (key : Nat) : ¬ model.Encloses key key := by
  obtain ⟨path, lineage⟩ := forest.ends key
  exact lineage.not_encloses

/-- A child is shown below a declaration just where it is not hidden itself, and its parent is the
declaration or shown below it. -/
theorem Forest.shown_iff (forest : model.Forest) (isChild : model.parent? item = some parent) :
    model.Shown key item ↔ (parent = key ∨ model.Shown key parent) ∧ ¬ model.Tagged item := by
  constructor
  · intro shown
    refine ⟨?_, shown.untagged⟩
    rcases (encloses_iff_of_parent isChild).mp shown.inside with same | above
    · exact Or.inl same.symm
    · right
      have ownParent : model.Encloses parent item :=
        (encloses_iff_of_parent isChild).mpr (Or.inl rfl)
      refine ⟨above, shown.clear parent above ownParent, fun outer inside further => ?_⟩
      exact shown.clear outer inside ((encloses_iff_of_parent isChild).mpr (Or.inr further))
  · rintro ⟨within, untagged⟩
    refine ⟨(encloses_iff_of_parent isChild).mpr ?_, untagged, fun outer inside further => ?_⟩
    · exact within.imp Eq.symm Shown.inside
    · have way := (encloses_iff_of_parent isChild).mp further
      rcases within with rfl | shown
      · -- nothing stands between a declaration and its own child
        rcases way with rfl | above
        · exact absurd inside (forest.not_encloses outer)
        · exact absurd (Relation.TransGen.trans inside above) (forest.not_encloses outer)
      · rcases way with rfl | above
        · exact shown.untagged
        · exact shown.clear outer inside above

/-! ## Taking away -/

/-- Some declarations have been taken away from their parents, and nothing else has changed. -/
structure Cuts (model smaller : Model) (gone : List Nat) : Prop where
  forest : smaller.Forest
  shrinks : model.Shrinks smaller
  readme? : ∀ key, smaller.readme? key = model.readme? key
  parent? : ∀ key, smaller.parent? key = if key ∈ gone then none else model.parent? key
  children : ∀ key, smaller.children key = (model.children key).filter (· ∉ gone)

theorem readme?_removeChild (model : Model) (parent child key : Nat) :
    (model.removeChild parent child).2.readme? key = model.readme? key := by
  rw [removeChild]
  split
  · rw [readme?_modify, readme?_modify]
    · intro node
      rfl
    · intro node
      rfl
  · rfl

theorem Forest.cuts_nothing (forest : model.Forest) : model.Cuts model [] where
  forest := forest
  shrinks := .refl model
  readme? _ := rfl
  parent? _ := by simp
  children _ := by simp

/-- A declaration is taken away from its parent; one without a parent is nobody's child, and
nothing happens. -/
theorem Forest.detach_cuts (forest : model.Forest) (gone : Nat) :
    model.Cuts (model.detach gone) [gone] := by
  cases isChild : model.parent? gone with
  | none =>
      have same : model.detach gone = model := by simp only [detach, isChild]
      rw [same]
      refine ⟨forest, .refl model, fun _ => rfl, fun key => ?_, fun key => ?_⟩
      · by_cases isGone : key = gone <;> simp [isGone, isChild]
      · symm
        rw [List.filter_eq_self]
        intro child member
        have different : child ≠ gone := by
          rintro rfl
          exact forest.notMem_of_root isChild key member
        simp [different]
  | some parent =>
      have member := (forest.linked parent gone).mp isChild
      have removed : model.detach gone = (model.removeChild parent gone).2 := by
        simp only [detach, isChild]
      rw [removed]
      refine ⟨forest.removeChild parent gone, removeChild_shrinks model parent gone,
        readme?_removeChild model parent gone, fun key => ?_, fun key => ?_⟩
      · rw [parent?_removeChild member]
        simp
      · rw [children_removeChild member]
        have erased : (model.children key).filter (· ∉ [gone]) = (model.children key).erase gone := by
          rw [(forest.once key).erase_eq_filter]
          apply List.filter_congr
          intro child _
          by_cases isGone : child = gone <;> simp [isGone]
        by_cases isParent : key = parent
        · rw [if_pos isParent, erased]
        · have notChild : gone ∉ model.children key := by
            intro listed
            have parents := (forest.linked key gone).mpr listed
            exact isParent (Option.some.inj (parents.symm.trans isChild))
          rw [if_neg isParent, erased, List.erase_of_not_mem notChild]

theorem Cuts.trans {first second : List Nat} (cuts : model.Cuts middle first)
    (further : middle.Cuts smaller second) : model.Cuts smaller (first ++ second) where
  forest := further.forest
  shrinks := cuts.shrinks.trans further.shrinks
  readme? key := (further.readme? key).trans (cuts.readme? key)
  parent? key := by
    rw [further.parent?, cuts.parent?]
    by_cases inFirst : key ∈ first <;> by_cases inSecond : key ∈ second <;>
      simp [inFirst, inSecond]
  children key := by
    rw [further.children, cuts.children, List.filter_filter]
    apply List.filter_congr
    intro child _
    by_cases inFirst : child ∈ first <;> by_cases inSecond : child ∈ second <;>
      simp [inFirst, inSecond]

theorem Forest.foldl_detach_cuts (forest : model.Forest) (gone : List Nat) :
    model.Cuts (gone.foldl detach model) gone := by
  induction gone generalizing model with
  | nil => exact forest.cuts_nothing
  | cons first rest inductionHypothesis =>
      have once := forest.detach_cuts first
      exact once.trans (inductionHypothesis once.forest)

/-! ## What is left -/

/-- The hidden declarations below a declaration, as they are met. -/
def hiddenBelow (model : Model) (key : Nat) : List Nat :=
  (model.descendants key).filter model.isHidden

namespace Forest

variable (forest : model.Forest)
include forest

theorem removeHidden_cuts (key : Nat) :
    model.Cuts (model.removeHidden key) (model.hiddenBelow key) :=
  forest.foldl_detach_cuts _

theorem mem_hiddenBelow :
    item ∈ model.hiddenBelow key ↔ model.Encloses key item ∧ model.Tagged item := by
  rw [hiddenBelow, List.mem_filter, forest.mem_descendants, isHidden_iff]

theorem encloses_removeHidden_iff :
    (model.removeHidden key).Encloses key item ↔ model.Shown key item := by
  have cuts := forest.removeHidden_cuts key
  obtain ⟨path, lineage⟩ := forest.ends item
  induction lineage with
  | @root item isRoot =>
      have stillRoot : (model.removeHidden key).parent? item = none := by
        rw [cuts.parent?, isRoot, ite_self]
      exact iff_of_false (not_encloses_of_root stillRoot)
        fun shown => not_encloses_of_root isRoot shown.inside
  | @child item parent _ isChild _ inductionHypothesis =>
      by_cases gone : item ∈ model.hiddenBelow key
      · have orphaned : (model.removeHidden key).parent? item = none := by
          rw [cuts.parent?, if_pos gone]
        have tagged := (forest.mem_hiddenBelow.mp gone).2
        exact iff_of_false (not_encloses_of_root orphaned) fun shown => shown.untagged tagged
      · have stillChild : (model.removeHidden key).parent? item = some parent := by
          rw [cuts.parent?, if_neg gone, isChild]
        have above : (model.removeHidden key).Encloses key parent ↔ model.Shown key parent :=
          inductionHypothesis
        rw [encloses_iff_of_parent stillChild, above, forest.shown_iff isChild, @eq_comm _ key,
          iff_self_and]
        intro within tagged
        have inside := (encloses_iff_of_parent isChild).mpr (within.imp Eq.symm Shown.inside)
        exact gone (forest.mem_hiddenBelow.mpr ⟨inside, tagged⟩)

/-- A declaration that stays loses its hidden children and no others. -/
theorem children_removeHidden (within : parent = key ∨ model.Shown key parent) :
    (model.removeHidden key).children parent =
      (model.children parent).filter fun child => !model.isHidden child := by
  rw [(forest.removeHidden_cuts key).children]
  apply List.filter_congr
  intro child isChild
  have hasParent := (forest.linked parent child).mpr isChild
  have inside : model.Encloses key child :=
    (encloses_iff_of_parent hasParent).mpr (within.imp Eq.symm Shown.inside)
  have gone : child ∈ model.hiddenBelow key ↔ model.isHidden child = true := by
    rw [forest.mem_hiddenBelow, isHidden_iff, and_iff_right inside]
  by_cases hidden : model.isHidden child = true <;> simp [gone, hidden]

/-- The tree that is read off afterwards is the tree from before, pruned. -/
theorem treeTo_removeHidden (depth : Nat) (within : item = key ∨ model.Shown key item) :
    (model.removeHidden key).treeTo depth item = (model.treeTo depth item).shown := by
  have cuts := forest.removeHidden_cuts key
  induction depth generalizing item with
  | zero => rw [treeTo, treeTo, cuts.shrinks.declaration?, Tree.shown, Tree.shownOfList]
  | succ depth inductionHypothesis =>
      have hidden : (fun child => !isHiddenComment (model.treeTo depth child).declaration.comment) =
          fun child => !model.isHidden child := by
        funext child
        rw [isHidden_eq]
        cases depth <;> rfl
      rw [treeTo, treeTo, cuts.shrinks.declaration?, Tree.shown, Tree.shownOfList_map, hidden,
        forest.children_removeHidden within]
      congr 1
      apply List.map_congr_left
      intro child member
      obtain ⟨isChild, notHidden⟩ := List.mem_filter.mp member
      have hasParent := (forest.linked item child).mpr isChild
      have untagged : ¬ model.Tagged child := by
        rw [← isHidden_iff]
        simpa using notHidden
      exact inductionHypothesis (Or.inr ((forest.shown_iff hasParent).mpr ⟨within, untagged⟩))

theorem hiddenBelow_removeHidden (key : Nat) :
    (model.removeHidden key).hiddenBelow key = [] := by
  have cuts := forest.removeHidden_cuts key
  rw [hiddenBelow, List.filter_eq_nil_iff]
  intro item met hidden
  have shown := forest.encloses_removeHidden_iff.mp (cuts.forest.mem_descendants.mp met)
  have tagged : model.Tagged item := by
    rw [← isHidden_iff, ← hidden, isHidden, isHidden, cuts.shrinks.declaration?]
  exact shown.untagged tagged

end Forest

/-- A model after hiding below a declaration.  What is reached is what is shown, with the parents,
the fields and the order that it had; the tree is the pruned tree; and there is nothing more to
hide. -/
structure Hides (model smaller : Model) (key : Nat) : Prop where
  reached : ∀ item, item ∈ smaller.descendants key ↔ model.Shown key item
  parents : ∀ item, model.Shown key item → smaller.parent? item = model.parent? item
  fields : ∀ item, smaller.declaration? item = model.declaration? item ∧
    smaller.readme? item = model.readme? item
  siblings : ∀ parent, parent = key ∨ model.Shown key parent →
    smaller.children parent = (model.children parent).filter fun child => !model.isHidden child
  order : (smaller.descendants key).Sublist (model.descendants key)
  tree : (smaller.project key).tree = (model.project key).tree.shown
  forest : smaller.Forest
  again : smaller.removeHidden key = smaller

/-- In a forest, hiding prunes the hidden declarations below a declaration with all that they
enclose, and does nothing else. -/
theorem removeHidden_hides (forest : model.Forest) (key : Nat) :
    model.Hides (model.removeHidden key) key := by
  have cuts := forest.removeHidden_cuts key
  refine ⟨fun item => ?reached, fun item shown => ?parents, fun item => ?fields,
    fun parent within => forest.children_removeHidden within, cuts.shrinks.descendants key,
    ?tree, cuts.forest, ?again⟩
  case reached => rw [cuts.forest.mem_descendants, forest.encloses_removeHidden_iff]
  case parents =>
    have stays : item ∉ model.hiddenBelow key := fun gone =>
      shown.untagged (forest.mem_hiddenBelow.mp gone).2
    rw [cuts.parent?, if_neg stays]
  case fields => exact ⟨cuts.shrinks.declaration? item, cuts.readme? item⟩
  case tree =>
    rw [project, project, cuts.shrinks.size]
    exact forest.treeTo_removeHidden model.size (Or.inl rfl)
  case again =>
    have nothing := forest.hiddenBelow_removeHidden key
    rw [hiddenBelow] at nothing
    rw [removeHidden, nothing, List.foldl_nil]

/-- A project whose first module has a hidden class with a hidden method, and a function beside the
class; the second module is hidden. -/
def hiddenChanges : List Change :=
  let hidden (name : String) (kind : Kind) : Change :=
    .create { Declaration.ofName name kind with comment := "Text.\n  @hidden\n" }
  [.add 0 2, .add 0 1, .add 1 5, .add 1 3, .add 3 4, .create (.ofName "g" .function),
    hidden "f" .method, hidden "C" .classDefinition, hidden "n" .moduleFile,
    .create (.ofName "m" .moduleFile), .createProject (.ofName "p" .project) ""]

def hiddenModel : Model := hiddenChanges.foldr (fun change model => change.apply model) .empty

theorem removeHidden_hides_nested :
    hiddenModel.Forest ∧ hiddenModel.descendants 0 = [1, 3, 4, 5, 2] ∧
      (hiddenModel.removeHidden 0).descendants 0 = [1, 5] ∧
      hiddenModel.Hides (hiddenModel.removeHidden 0) 0 := by
  have reached : Reached hiddenChanges hiddenModel := by
    refine .step _ (.step _ (.step _ (.step _ (.step _ (.step _ (.step _ (.step _ (.step _
      (.step _ (.step _ .empty trivial) trivial) trivial) trivial) trivial) trivial) ?_) ?_) ?_) ?_)
      ?_
    all_goals
      refine ⟨by decide, by decide, by decide, by decide, not_encloses_of_root ?_⟩
      decide
  exact ⟨reached.forest, by decide, by decide +kernel, removeHidden_hides reached.forest 0⟩

end Model

end ApiDocs
