import ApiDocs.Ordered
import Mathlib.Data.List.Sort

/-!
# Lists in ascending order

An item is inserted before the first item of greater order, in a list that is sorted or not; items
that are inserted one after the other are sorted stably.  An item is removed by its identity: what
is equal to it in everything else stays.
-/

namespace ApiDocs

section Insertion

variable {Item Other : Type}

/-! ## Insertion -/

theorem insertByOrder_perm
    (order : Item → Int) (item : Item) (items : List Item) :
    (insertByOrder order item items).Perm (item :: items) := by
  induction items with
  | nil =>
      exact List.Perm.refl [item]
  | cons head tail inductionHypothesis =>
      rw [insertByOrder]
      split
      · exact List.Perm.refl _
      · exact (inductionHypothesis.cons head).trans (List.Perm.swap item head tail)

theorem map_insertByOrder
    (view : Item → Other) (order : Other → Int) (item : Item) (items : List Item) :
    (insertByOrder (fun other => order (view other)) item items).map view =
      insertByOrder order (view item) (items.map view) := by
  induction items with
  | nil =>
      rfl
  | cons head tail inductionHypothesis =>
      rw [List.map_cons, insertByOrder, insertByOrder]
      split
      · rfl
      · rw [List.map_cons, inductionHypothesis]

/-- What stands before an inserted item has no greater order; what stands directly behind it has. -/
theorem exists_insertByOrder_eq (order : Item → Int) (item : Item) (items : List Item) :
    ∃ before after, items = before ++ after ∧
      insertByOrder order item items = before ++ item :: after ∧
        (∀ other ∈ before, order other ≤ order item) ∧
          ∀ next ∈ after.head?, order item < order next := by
  induction items with
  | nil => exact ⟨[], [], rfl, rfl, List.forall_mem_nil _, fun _ isNext => by cases isNext⟩
  | cons head tail inductionHypothesis =>
      rw [insertByOrder]
      by_cases isGreater : order item < order head
      · rw [if_pos isGreater]
        refine ⟨[], head :: tail, rfl, rfl, List.forall_mem_nil _, fun next isNext => ?_⟩
        cases isNext
        exact isGreater
      · rw [if_neg isGreater]
        obtain ⟨before, after, split, inserted, notGreater, greater⟩ := inductionHypothesis
        refine ⟨head :: before, after, congrArg (head :: ·) split, congrArg (head :: ·) inserted,
          List.forall_mem_cons.mpr ⟨Int.not_lt.mp isGreater, notGreater⟩, greater⟩

end Insertion

section Removal

variable {Item : Type} {order : Item → Int} {item : Item} {items : List Item} {test : Item → Bool}

/-! ## Removal of what was inserted -/

/-- An item goes before the first item of greater order, so it is the first of its sort unless one
of no greater order has been there. -/
theorem eraseP_insertByOrder_of_lt
    (isTested : test item = true)
    (later : ∀ other ∈ items, test other = true → order item < order other) :
    (insertByOrder order item items).eraseP test = items := by
  induction items with
  | nil => simp [insertByOrder, isTested]
  | cons head tail inductionHypothesis =>
      obtain ⟨headLater, tailLater⟩ := List.forall_mem_cons.mp later
      rw [insertByOrder]
      by_cases before : order item < order head
      · rw [if_pos before, List.eraseP_cons_of_pos isTested]
      · have headKept : ¬ test head = true := fun tested => before (headLater tested)
        rw [if_neg before, List.eraseP_cons_of_neg headKept, inductionHypothesis tailLater]

/-- Where an item of the same sort and no greater order stands in a sorted list, it is that one that
is removed, before the insertion as well as after it. -/
theorem eraseP_insertByOrder_of_le
    (sorted : items.Pairwise fun first second => order first ≤ order second)
    (earlier : ∃ other ∈ items, test other = true ∧ order other ≤ order item) :
    (insertByOrder order item items).eraseP test = insertByOrder order item (items.eraseP test) := by
  induction items with
  | nil => simp at earlier
  | cons head tail inductionHypothesis =>
      obtain ⟨headFirst, tailSorted⟩ := List.pairwise_cons.mp sorted
      obtain ⟨other, member, tested, notAfter⟩ := earlier
      have headNotAfter : ¬ order item < order head := by
        rcases List.mem_cons.mp member with rfl | inTail
        · omega
        · have := headFirst other inTail
          omega
      rw [insertByOrder, if_neg headNotAfter]
      by_cases headTested : test head = true
      · rw [List.eraseP_cons_of_pos headTested, List.eraseP_cons_of_pos headTested]
      · have inTail : other ∈ tail := by
          rcases List.mem_cons.mp member with rfl | inTail
          · exact absurd tested headTested
          · exact inTail
        rw [List.eraseP_cons_of_neg headTested, List.eraseP_cons_of_neg headTested, insertByOrder,
          if_neg headNotAfter, inductionHypothesis tailSorted ⟨other, inTail, tested, notAfter⟩]

/-- One more of a sort and one less are as many as before. -/
theorem countP_eraseP_insertByOrder (isTested : test item = true) :
    ((insertByOrder order item items).eraseP test).countP test = items.countP test := by
  have permuted := insertByOrder_perm order item items
  have member : item ∈ insertByOrder order item items := permuted.mem_iff.mpr List.mem_cons_self
  obtain ⟨removed, before, after, _, removedTested, split, erased⟩ :=
    List.exists_of_eraseP member isTested
  have counted := permuted.countP_eq test
  rw [split, List.countP_append, List.countP_cons_of_pos removedTested,
    List.countP_cons_of_pos isTested] at counted
  rw [erased, List.countP_append]
  omega

/-- What is removed is among the items that pass the test. -/
theorem filter_eraseP_of_not {keep : Item → Bool} (dropped : ∀ other, test other = true →
      ¬ keep other = true) :
    (items.eraseP test).filter keep = items.filter keep := by
  induction items with
  | nil => rfl
  | cons head tail inductionHypothesis =>
      by_cases headTested : test head = true
      · rw [List.eraseP_cons_of_pos headTested, List.filter_cons_of_neg (dropped head headTested)]
      · rw [List.eraseP_cons_of_neg headTested, List.filter_cons, List.filter_cons,
          inductionHypothesis]

end Removal

section Sorting

variable {Item : Type} {order : Item → Int} {item : Item} {items sorted : List Item}

/-! ## Sorting -/

theorem insertByOrder_sorted
    (sorted : items.Pairwise fun first second => order first ≤ order second) :
    (insertByOrder order item items).Pairwise fun first second => order first ≤ order second := by
  induction items with
  | nil => exact List.pairwise_singleton _ item
  | cons head tail inductionHypothesis =>
      obtain ⟨headFirst, tailSorted⟩ := List.pairwise_cons.mp sorted
      rw [insertByOrder]
      by_cases before : order item < order head
      · rw [if_pos before]
        refine List.pairwise_cons.mpr ⟨fun other member => ?_, sorted⟩
        rcases List.mem_cons.mp member with rfl | inTail
        · exact Int.le_of_lt before
        · exact Int.le_trans (Int.le_of_lt before) (headFirst other inTail)
      · rw [if_neg before]
        refine List.pairwise_cons.mpr ⟨fun other member => ?_, inductionHypothesis tailSorted⟩
        rcases List.mem_cons.mp ((insertByOrder_perm order item tail).mem_iff.mp member) with
          rfl | inTail
        · exact Int.not_lt.mp before
        · exact headFirst other inTail

/-- The same items in ascending order, with those of one order number as they stood before. -/
structure IsStableSort (order : Item → Int) (items sorted : List Item) : Prop where
  permutation : sorted.Perm items
  ascending : sorted.Pairwise fun first second => order first ≤ order second
  stable : ∀ number,
    (sorted.filter fun item => order item = number) = items.filter fun item => order item = number

namespace IsStableSort

theorem nil : IsStableSort order [] [] :=
  ⟨List.Perm.refl [], List.Pairwise.nil, fun _ => rfl⟩

/-- In a sorted list nothing behind an inserted item has its order number. -/
theorem insert (isSort : IsStableSort order items sorted) (item : Item) :
    IsStableSort order (items ++ [item]) (insertByOrder order item sorted) where
  permutation :=
    (insertByOrder_perm order item sorted).trans
      ((isSort.permutation.cons item).trans (List.perm_append_singleton item items).symm)
  ascending := insertByOrder_sorted isSort.ascending
  stable := by
    intro number
    obtain ⟨before, after, split, inserted, _, greater⟩ :=
      exists_insertByOrder_eq order item sorted
    have behind : ∀ other ∈ after, order item < order other := by
      have ascending : after.Pairwise fun first second => order first ≤ order second :=
        isSort.ascending.sublist (split ▸ List.sublist_append_right before after)
      cases after with
      | nil => exact List.forall_mem_nil _
      | cons next after =>
          have isGreater : order item < order next := greater next rfl
          refine List.forall_mem_cons.mpr ⟨isGreater, fun other member => ?_⟩
          exact Int.lt_of_lt_of_le isGreater ((List.pairwise_cons.mp ascending).1 other member)
    rw [inserted, List.filter_append, List.filter_append, ← isSort.stable number, split,
      List.filter_append, List.append_assoc]
    congr 1
    by_cases isNumber : order item = number
    · have noneBehind : (after.filter fun other => order other = number) = [] := by
        refine List.filter_eq_nil_iff.mpr fun other member => ?_
        have isGreater := behind other member
        simp only [decide_eq_true_eq]
        omega
      rw [List.filter_cons_of_pos (by simpa using isNumber), noneBehind, List.nil_append,
        List.filter_singleton]
      simp [isNumber]
    · rw [List.filter_cons_of_neg (by simpa using isNumber), List.filter_singleton]
      simp [isNumber]

theorem insertAll (isSort : IsStableSort order items sorted) (more : List Item) :
    IsStableSort order (items ++ more)
      (more.foldl (fun sorted item => insertByOrder order item sorted) sorted) := by
  induction more generalizing items sorted with
  | nil => exact (List.append_nil items).symm ▸ isSort
  | cons item more inductionHypothesis =>
      have inserted := inductionHypothesis (isSort.insert item)
      rwa [List.append_assoc, List.singleton_append] at inserted

theorem mem_iff_of_filter_eq {first second : List Item}
    (same : ∀ number, (first.filter fun item => order item = number) =
      second.filter fun item => order item = number) (item : Item) :
    item ∈ first ↔ item ∈ second := by
  have members := congrArg (item ∈ ·) (same (order item))
  simpa using members

theorem order_head_le {head : Item} {tail : List Item}
    (ascending : (head :: tail).Pairwise fun first second => order first ≤ order second)
    (member : item ∈ head :: tail) : order head ≤ order item := by
  rcases List.mem_cons.mp member with rfl | inTail
  · exact Int.le_refl _
  · exact (List.pairwise_cons.mp ascending).1 item inTail

/-- Two ascending lists with the same items of each order number begin alike: each holds the first
item of the other, so both have the same least number. -/
theorem eq_of_filter_eq {first second : List Item}
    (firstAscending : first.Pairwise fun one other => order one ≤ order other)
    (secondAscending : second.Pairwise fun one other => order one ≤ order other)
    (same : ∀ number, (first.filter fun item => order item = number) =
      second.filter fun item => order item = number) :
    first = second := by
  induction first generalizing second with
  | nil =>
      refine (List.eq_nil_iff_forall_not_mem.mpr fun item member => ?_).symm
      exact List.not_mem_nil ((mem_iff_of_filter_eq same item).mpr member)
  | cons head tail inductionHypothesis =>
      have inSecond := (mem_iff_of_filter_eq same head).mp List.mem_cons_self
      cases second with
      | nil => exact absurd inSecond List.not_mem_nil
      | cons head' tail' =>
          have inFirst := (mem_iff_of_filter_eq same head').mpr List.mem_cons_self
          have sameOrder : order head' = order head :=
            Int.le_antisymm (order_head_le secondAscending inSecond)
              (order_head_le firstAscending inFirst)
          have heads := same (order head)
          simp only [List.filter_cons, sameOrder, decide_true, if_true, List.cons.injEq] at heads
          obtain rfl : head = head' := heads.1
          refine congrArg (head :: ·) (inductionHypothesis (List.pairwise_cons.mp firstAscending).2
            (List.pairwise_cons.mp secondAscending).2 fun number => ?_)
          have whole := same number
          by_cases isNumber : order head = number
          · simpa [List.filter_cons, isNumber] using whole
          · simpa [List.filter_cons, isNumber] using whole

theorem pair_sublist (isSort : IsStableSort order items sorted) {first second : Item}
    (firstMember : first ∈ items) (secondMember : second ∈ items)
    (before : order first < order second) : [first, second].Sublist sorted := by
  obtain ⟨earlier, later, split⟩ :=
    List.append_of_mem (isSort.permutation.mem_iff.mpr firstMember)
  have ascending := isSort.ascending
  rw [split, List.pairwise_append] at ascending
  have member := isSort.permutation.mem_iff.mpr secondMember
  rw [split, List.mem_append, List.mem_cons] at member
  rcases member with isEarlier | rfl | isLater
  · have := ascending.2.2 second isEarlier first List.mem_cons_self
    omega
  · omega
  · rw [split]
    exact ((List.singleton_sublist.mpr isLater).cons_cons first).trans
      (List.sublist_append_right earlier _)

/-- There is only one stable sort. -/
theorem unique {other : List Item} (isSort : IsStableSort order items sorted)
    (isOther : IsStableSort order items other) : sorted = other :=
  eq_of_filter_eq isSort.ascending isOther.ascending fun number =>
    (isSort.stable number).trans (isOther.stable number).symm

end IsStableSort

end Sorting

/-! ## Lists of objects -/

/-- What becomes of a list when an item is inserted by order and removed by identity.  Two items of
different identities may be equal in all that they hold. -/
structure OrderedByIdentity {Item Identity : Type} [DecidableEq Identity]
    (identity : Item → Identity) (order : Item → Int) (item : Item) (items : List Item) :
    Prop where
  /-- The item goes directly before the first one of greater order, in whatever order the list is,
  and the others keep their places. -/
  placed : ∃ before after, items = before ++ after ∧
    insertByOrder order item items = before ++ item :: after ∧
      (∀ other ∈ before, order other ≤ order item) ∧ ∀ next ∈ after.head?, order item < order next
  /-- A sorted list stays sorted. -/
  sorted : (items.Pairwise fun first second => order first ≤ order second) →
    (insertByOrder order item items).Pairwise fun first second => order first ≤ order second
  /-- Inserted one after the other, items are sorted stably. -/
  sorts : ∀ sorted, IsStableSort order items sorted ↔
    sorted = items.foldl (fun sorted item => insertByOrder order item sorted) []
  /-- If the item is in the list, it is removed where it stands first. -/
  removed : (∃ other ∈ items, identity other = identity item) →
    ∃ before first after, items = before ++ first :: after ∧ identity first = identity item ∧
      (∀ earlier ∈ before, identity earlier ≠ identity item) ∧
        removeFirst (fun other => identity other = identity item) items = (true, before ++ after)
  /-- If it is not, nothing is removed. -/
  absent : (∀ other ∈ items, identity other ≠ identity item) →
    removeFirst (fun other => identity other = identity item) items = (false, items)
  /-- Items of another identity stay, whatever they hold. -/
  others : ((removeFirst (fun other => identity other = identity item) items).2.filter
      fun other => identity other ≠ identity item) =
    items.filter fun other => identity other ≠ identity item
  /-- An item that was not in the list is removed from where it was inserted. -/
  restored : (∀ other ∈ items, identity other ≠ identity item) →
    removeFirst (fun other => identity other = identity item) (insertByOrder order item items) =
      (true, items)

theorem orderedByIdentity {Item Identity : Type} [DecidableEq Identity]
    (identity : Item → Identity) (order : Item → Int) (item : Item) (items : List Item) :
    OrderedByIdentity identity order item items where
  placed := exists_insertByOrder_eq order item items
  sorted := insertByOrder_sorted
  sorts sorted := by
    have folded : IsStableSort order items
        (items.foldl (fun sorted item => insertByOrder order item sorted) []) :=
      IsStableSort.nil.insertAll items
    refine ⟨fun isSort => isSort.unique folded, ?_⟩
    rintro rfl
    exact folded
  removed := by
    rintro ⟨other, member, same⟩
    obtain ⟨first, before, after, notBefore, isFirst, split, erased⟩ :=
      List.exists_of_eraseP (p := fun other => decide (identity other = identity item)) member
        (decide_eq_true same)
    refine ⟨before, first, after, split, of_decide_eq_true isFirst, fun earlier earlierMember =>
      of_decide_eq_false (Bool.eq_false_iff.mpr (notBefore earlier earlierMember)), ?_⟩
    rw [removeFirst, erased]
    exact Prod.ext (List.any_eq_true.mpr ⟨other, member, decide_eq_true same⟩) rfl
  absent := by
    intro absent
    have noneTested : ∀ other ∈ items, ¬ decide (identity other = identity item) = true :=
      fun other member tested => absent other member (of_decide_eq_true tested)
    rw [removeFirst, List.eraseP_of_forall_not noneTested, List.any_eq_false.mpr noneTested]
  others := filter_eraseP_of_not fun _ tested kept =>
    of_decide_eq_true kept (of_decide_eq_true tested)
  restored := by
    intro absent
    have isTested : decide (identity item = identity item) = true := decide_eq_true rfl
    have restored : (insertByOrder order item items).eraseP
        (fun other => decide (identity other = identity item)) = items :=
      eraseP_insertByOrder_of_lt isTested fun other member tested =>
        absurd (of_decide_eq_true tested) (absent other member)
    rw [removeFirst, restored]
    refine Prod.ext (List.any_eq_true.mpr ⟨item, ?_, isTested⟩) rfl
    exact (insertByOrder_perm order item items).mem_iff.mpr List.mem_cons_self

/-- Items are an identity and an order: the third one is equal to the first in order only, and the
list holds the first item twice. -/
example :
    insertByOrder Prod.snd (3, 1) [(1, 1), (2, 2), (1, 1), (4, 0)] =
        [(1, 1), (3, 1), (2, 2), (1, 1), (4, 0)] ∧
      removeFirst (fun other => other.1 = 1) [(3, 1), (1, 1), (2, 2), (1, 1)] =
        (true, [(3, 1), (2, 2), (1, 1)]) := by
  decide

end ApiDocs
