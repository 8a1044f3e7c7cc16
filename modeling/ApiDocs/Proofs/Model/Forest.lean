import ApiDocs.Proofs.Model.Store
import Mathlib.Data.List.Nodup
import Mathlib.Data.List.Range
import Mathlib.Logic.Relation

/-!
# Models that are forests

Declarations are created, added to others and removed again.  As long as what is added has no
parent and does not enclose what it is added to, the parents and the lists of children say the
same, and nothing encloses itself.  What carries this through the changes is that the way up from
a declaration ends.
-/

namespace ApiDocs

namespace Model

/-! ## The way up -/

/-- One declaration is the parent of another one, or the parent's parent, and so on. -/
def Encloses (model : Model) (outer inner : Nat) : Prop :=
  Relation.TransGen (fun child parent => model.parent? child = some parent) inner outer

/-- A declaration and all that enclose it, nearest first, up to one without a parent. -/
inductive Lineage (model : Model) : Nat → List Nat → Prop where
  | root {key : Nat} : model.parent? key = none → Lineage model key [key]
  | child {key parent : Nat} {above : List Nat} :
      model.parent? key = some parent → Lineage model parent above →
      Lineage model key (key :: above)

/-- The parents and the lists of children say the same, no child is listed twice and every way up
ends. -/
structure Forest (model : Model) : Prop where
  linked : ∀ parent child, model.parent? child = some parent ↔ child ∈ model.children parent
  once : ∀ parent, (model.children parent).Nodup
  ends : ∀ key, ∃ path, model.Lineage key path

variable {model : Model} {key : Nat}

theorem not_encloses_of_root {outer : Nat} (isRoot : model.parent? key = none) :
    ¬ model.Encloses outer key := by
  intro encloses
  obtain ⟨parent, isChild, _⟩ := Relation.TransGen.head'_iff.mp encloses
  cases isRoot.symm.trans isChild

/-- What encloses a child is its parent or encloses the parent. -/
theorem encloses_iff_of_parent {outer parent : Nat} (isChild : model.parent? key = some parent) :
    model.Encloses outer key ↔ outer = parent ∨ model.Encloses outer parent := by
  constructor
  · intro encloses
    obtain ⟨other, otherIsChild, way⟩ := Relation.TransGen.head'_iff.mp encloses
    obtain rfl := Option.some.inj (isChild.symm.trans otherIsChild)
    exact Relation.reflTransGen_iff_eq_or_transGen.mp way
  · rintro (rfl | further)
    · exact .single isChild
    · exact .head isChild further

/-- What a declaration encloses is one of its children or is enclosed by one. -/
theorem encloses_iff_child {outer inner : Nat} :
    model.Encloses outer inner ↔
      ∃ child, model.parent? child = some outer ∧
        (inner = child ∨ model.Encloses child inner) := by
  rw [Encloses, Relation.TransGen.tail'_iff]
  constructor
  · rintro ⟨child, way, isChild⟩
    refine ⟨child, isChild, ?_⟩
    exact (Relation.reflTransGen_iff_eq_or_transGen.mp way).imp Eq.symm id
  · rintro ⟨child, isChild, way⟩
    refine ⟨child, ?_, isChild⟩
    exact Relation.reflTransGen_iff_eq_or_transGen.mpr (way.imp Eq.symm id)

namespace Lineage

variable {path other : List Nat}

theorem unique (lineage : model.Lineage key path) (another : model.Lineage key other) :
    path = other := by
  induction lineage generalizing other with
  | root isRoot =>
      cases another with
      | root => rfl
      | child isChild => cases isRoot.symm.trans isChild
  | child isChild _ inductionHypothesis =>
      cases another with
      | root isRoot => cases isRoot.symm.trans isChild
      | child otherIsChild otherAbove =>
          obtain rfl := Option.some.inj (isChild.symm.trans otherIsChild)
          rw [inductionHypothesis otherAbove]

theorem mem_iff (lineage : model.Lineage key path) {outer : Nat} :
    outer ∈ path ↔ outer = key ∨ model.Encloses outer key := by
  induction lineage with
  | root isRoot => rw [List.mem_singleton, or_iff_left (not_encloses_of_root isRoot)]
  | child isChild _ inductionHypothesis =>
      rw [List.mem_cons, inductionHypothesis, encloses_iff_of_parent isChild]

/-- The way up from what a declaration encloses is longer than its own. -/
theorem length_lt {outer inner : Nat} (encloses : model.Encloses outer inner)
    (lineage : model.Lineage outer path) (innerLineage : model.Lineage inner other) :
    path.length < other.length := by
  induction innerLineage with
  | root isRoot => exact absurd encloses (not_encloses_of_root isRoot)
  | child isChild above inductionHypothesis =>
      rw [List.length_cons]
      rcases (encloses_iff_of_parent isChild).mp encloses with rfl | beyond
      · rw [lineage.unique above]
        exact Nat.lt_succ_self _
      · exact Nat.lt_succ_of_lt (inductionHypothesis beyond)

theorem not_encloses (lineage : model.Lineage key path) : ¬ model.Encloses key key :=
  fun encloses => Nat.lt_irrefl _ (length_lt encloses lineage lineage)

theorem nodup (lineage : model.Lineage key path) : path.Nodup := by
  induction lineage with
  | root => exact List.nodup_singleton _
  | child isChild above inductionHypothesis =>
      refine List.nodup_cons.mpr ⟨fun member => ?_, inductionHypothesis⟩
      have encloses := (encloses_iff_of_parent isChild).mpr (above.mem_iff.mp member)
      exact (Lineage.child isChild above).not_encloses encloses

/-- The way up from what stands on a way up is its end. -/
theorem exists_suffix (lineage : model.Lineage key path) {outer : Nat} (member : outer ∈ path) :
    ∃ above, model.Lineage outer above ∧ above <:+ path := by
  induction lineage with
  | root isRoot =>
      rw [List.mem_singleton.mp member]
      exact ⟨_, root isRoot, List.suffix_rfl⟩
  | child isChild above inductionHypothesis =>
      rcases List.mem_cons.mp member with rfl | beyond
      · exact ⟨_, child isChild above, List.suffix_rfl⟩
      · obtain ⟨rest, lineage, isSuffix⟩ := inductionHypothesis beyond
        exact ⟨rest, lineage, isSuffix.trans (List.suffix_cons _ _)⟩

/-- A way up stays one as long as the parents on it do. -/
theorem of_same {changed : Model}
    (same : ∀ member ∈ path, changed.parent? member = model.parent? member)
    (lineage : model.Lineage key path) : changed.Lineage key path := by
  induction lineage with
  | root isRoot => exact root ((same _ List.mem_cons_self).trans isRoot)
  | child isChild _ inductionHypothesis =>
      obtain ⟨keySame, aboveSame⟩ := List.forall_mem_cons.mp same
      exact child (keySame.trans isChild) (inductionHypothesis aboveSame)

/-- Where one declaration gets another parent, every way up ends as soon as that of this
declaration does. -/
theorem exists_of_moved {changed : Model} {moved : Nat}
    (same : ∀ other, other ≠ moved → changed.parent? other = model.parent? other)
    (ends : ∃ path, changed.Lineage moved path) (lineage : model.Lineage key path) :
    ∃ path, changed.Lineage key path := by
  induction lineage with
  | @root key isRoot =>
      by_cases isMoved : key = moved
      · rw [isMoved]
        exact ends
      · exact ⟨[key], root ((same key isMoved).trans isRoot)⟩
  | @child key parent above isChild _ inductionHypothesis =>
      by_cases isMoved : key = moved
      · rw [isMoved]
        exact ends
      · obtain ⟨further, lineage⟩ := inductionHypothesis
        exact ⟨key :: further, child ((same key isMoved).trans isChild) lineage⟩

end Lineage

/-! ## Changes -/

/-- What is done to a model. -/
inductive Change where
  | create (declaration : Declaration)
  | createProject (declaration : Declaration) (readme : String)
  | add (parent child : Nat)
  | remove (parent child : Nat)

namespace Change

def apply (model : Model) : Change → Model
  | create declaration => model.create declaration
  | createProject declaration readme => model.createProject declaration readme
  | add parent child => model.addChild parent child
  | remove parent child => (model.removeChild parent child).2

/-- What is added has no parent, and is neither what it is added to nor encloses it. -/
def Permitted (model : Model) : Change → Prop
  | add parent child =>
    parent < model.size ∧ child < model.size ∧ model.parent? child = none ∧ child ≠ parent ∧
      ¬ model.Encloses child parent
  | create _ | createProject _ _ | remove _ _ => True

end Change

/-- A model that comes of changes, the last of which stands first. -/
inductive Reached : List Change → Model → Prop where
  | empty : Reached [] .empty
  | step {changes : List Change} {model : Model} (change : Change) :
      Reached changes model → change.Permitted model →
      Reached (change :: changes) (change.apply model)

/-! ## What changes preserve -/

theorem forest_empty : Forest .empty where
  linked _ _ := iff_of_false (fun isChild => nomatch isChild) List.not_mem_nil
  once _ := List.nodup_nil
  ends key := ⟨[key], .root rfl⟩

namespace Forest

theorem push (forest : model.Forest) {node : Node} (childless : node.children = [])
    (orphan : node.parent = none) :
    (Model.mk (model.nodes.push node)).Forest where
  linked parent child := by
    rw [parent?_push _ orphan, children_push _ childless]
    exact forest.linked parent child
  once parent := by
    rw [children_push _ childless]
    exact forest.once parent
  ends key := by
    obtain ⟨path, lineage⟩ := forest.ends key
    exact ⟨path, lineage.of_same fun member _ => parent?_push _ orphan member⟩

/-- What has no parent is nobody's child. -/
theorem notMem_of_root (forest : model.Forest) {child : Nat} (isRoot : model.parent? child = none)
    (parent : Nat) : child ∉ model.children parent := by
  intro member
  cases isRoot.symm.trans ((forest.linked parent child).mpr member)

theorem addChild (forest : model.Forest) {parent child : Nat}
    (permitted : (Change.add parent child).Permitted model) :
    (model.addChild parent child).Forest := by
  obtain ⟨parentInside, childInside, isRoot, isElse, notAbove⟩ := permitted
  have noChild := forest.notMem_of_root isRoot
  refine ⟨fun above below => ?linked, fun above => ?once, fun key => ?ends⟩
  case linked =>
    rw [parent?_addChild model childInside, children_addChild model parentInside]
    by_cases isChild : below = child
    · rw [if_pos isChild, isChild, Option.some.injEq]
      by_cases isParent : above = parent
      · simp [isParent]
      · simp [isParent, Ne.symm isParent, noChild above]
    · rw [if_neg isChild, forest.linked]
      by_cases isParent : above = parent <;> simp [isParent, isChild]
  case once =>
    rw [children_addChild model parentInside]
    split
    · rw [← List.concat_eq_append]
      exact (forest.once above).concat (noChild above)
    · exact forest.once above
  case ends =>
    have same (other : Nat) (isOther : other ≠ child) :
        (model.addChild parent child).parent? other = model.parent? other := by
      rw [parent?_addChild model childInside, if_neg isOther]
    have isChild : (model.addChild parent child).parent? child = some parent := by
      rw [parent?_addChild model childInside, if_pos rfl]
    obtain ⟨path, lineage⟩ := forest.ends key
    obtain ⟨above, parentLineage⟩ := forest.ends parent
    refine lineage.exists_of_moved same ⟨child :: above, .child isChild ?_⟩
    -- the child is not on the way up from its new parent, so this way stays
    refine parentLineage.of_same fun member isAbove => same member ?_
    rintro rfl
    exact (parentLineage.mem_iff.mp isAbove).elim isElse notAbove

theorem removeChild (forest : model.Forest) (parent child : Nat) :
    (model.removeChild parent child).2.Forest := by
  by_cases member : child ∈ model.children parent
  case neg =>
    rw [removeChild_of_notMem member]
    exact forest
  refine ⟨fun above below => ?linked, fun above => ?once, fun key => ?ends⟩
  case linked =>
    rw [parent?_removeChild member, children_removeChild member]
    by_cases isChild : below = child
    · rw [if_pos isChild, isChild]
      refine iff_of_false (fun isSome => nomatch isSome) ?_
      split
      · exact (forest.once above).not_mem_erase
      · rename_i isElse
        intro listed
        have parents := ((forest.linked parent child).mpr member).symm.trans
          ((forest.linked above child).mpr listed)
        exact isElse (Option.some.inj parents).symm
    · rw [if_neg isChild, forest.linked]
      split
      · exact (List.mem_erase_of_ne isChild).symm
      · exact Iff.rfl
  case once =>
    rw [children_removeChild member]
    split
    · exact (forest.once above).erase child
    · exact forest.once above
  case ends =>
    obtain ⟨path, lineage⟩ := forest.ends key
    refine lineage.exists_of_moved (fun other isOther => ?_) ⟨[child], .root ?_⟩
    · rw [parent?_removeChild member, if_neg isOther]
    · rw [parent?_removeChild member, if_pos rfl]

theorem apply (forest : model.Forest) {change : Change} (permitted : change.Permitted model) :
    (change.apply model).Forest := by
  cases change with
  | create | createProject => exact forest.push rfl rfl
  | add => exact forest.addChild permitted
  | remove parent child => exact forest.removeChild parent child

end Forest

theorem Reached.forest {changes : List Change} (reached : Reached changes model) :
    model.Forest := by
  induction reached with
  | empty => exact forest_empty
  | step change _ permitted inductionHypothesis => exact inductionHypothesis.apply permitted

/-! ## The order of siblings -/

/-- When a declaration was last added to another one, counted in changes. -/
def addedAt (child : Nat) : List Change → Nat
  | [] => 0
  | .add _ other :: earlier =>
    if other = child then earlier.length + 1 else addedAt child earlier
  | _ :: earlier => addedAt child earlier

theorem addedAt_le (child : Nat) (changes : List Change) :
    addedAt child changes ≤ changes.length := by
  fun_induction addedAt child changes with
  | case1 => exact Nat.le_refl 0
  | case2 => exact Nat.le_refl _
  | case3 _ _ _ _ inductionHypothesis => exact Nat.le_succ_of_le inductionHypothesis
  | case4 _ _ _ inductionHypothesis => exact Nat.le_succ_of_le inductionHypothesis

/-- Children stand in the order in which they were added. -/
theorem Reached.children_pairwise {changes : List Change} (reached : Reached changes model)
    (parent : Nat) :
    (model.children parent).Pairwise fun first second =>
      addedAt first changes < addedAt second changes := by
  induction reached generalizing parent with
  | empty => exact List.Pairwise.nil
  | @step changes model change reached permitted inductionHypothesis =>
      cases change with
      | create declaration =>
          have same : (model.create declaration).children parent = model.children parent :=
            model.children_push rfl parent
          rw [Change.apply, same]
          exact inductionHypothesis parent
      | createProject declaration readme =>
          have same : (model.createProject declaration readme).children parent =
              model.children parent :=
            model.children_push rfl parent
          rw [Change.apply, same]
          exact inductionHypothesis parent
      | remove above child =>
          have fewer := (removeChild_shrinks model above child).children parent
          exact (inductionHypothesis parent).sublist fewer
      | add above child =>
          obtain ⟨inside, _, isRoot, _⟩ := permitted
          have kept {other : Nat} (listed : other ∈ model.children parent) :
              addedAt other (.add above child :: changes) = addedAt other changes := by
            have isElse : child ≠ other := by
              rintro rfl
              exact reached.forest.notMem_of_root isRoot parent listed
            rw [addedAt, if_neg isElse]
          have before : (model.children parent).Pairwise fun first second =>
              addedAt first (.add above child :: changes) <
                addedAt second (.add above child :: changes) := by
            refine (inductionHypothesis parent).imp_of_mem fun firstListed secondListed less => ?_
            rw [kept firstListed, kept secondListed]
            exact less
          rw [Change.apply, children_addChild model inside]
          split
          · refine List.pairwise_append.mpr ⟨before, List.pairwise_singleton _ _, ?_⟩
            intro other listed last isLast
            rw [List.mem_singleton.mp isLast, kept listed, addedAt, if_pos rfl]
            exact Nat.lt_succ_of_le (addedAt_le other changes)
          · exact before

end Model

end ApiDocs
