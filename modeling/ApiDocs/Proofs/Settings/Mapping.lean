import ApiDocs.Run.Application
import Mathlib.Data.List.Perm.Basic
import Mathlib.Data.Option.Basic
import Mathlib.Data.Sum.Basic

/-!
# Mappings of values

A mapping is a list of pairs in which no key stands twice.  Being the same key is equality of what
identifies a key, so what a mapping says under a name does not depend on the order of its pairs, and
neither does a merge of two mappings.
-/

namespace ApiDocs

/-! ## Keys -/

namespace Value

/-- The integer that a value counts as: truth values and doubles may be integers. -/
def integer? : Value → Option Int
  | boolean value => some (if value then 1 else 0)
  | integer value => some value
  | double value => Yaml.integral? value
  | _ => none

/-- What identifies a key that is no integer. -/
inductive Identity where
  | null
  | double (value : Double)
  | text (value : String)
  | bytes (value : List UInt8)
  | date (value : Date)
  /-- The universal time, or the moment as it is written where that is not known. -/
  | moment (time : Int ⊕ Moment)
deriving DecidableEq

/-- The identity of a key that is no integer; collections, paths and what is no number are not the
same key as anything. -/
def otherIdentity? : Value → Option Identity
  | null => some .null
  | double value => if value = .nan then none else some (.double value)
  | text value => some (.text value)
  | bytes value => some (.bytes value)
  | date value => some (.date value)
  | moment value => some (.moment (value.universal?.elim (.inr value) .inl))
  | _ => none

/-- What identifies a key: an integer, whatever its type, or something else. -/
def identity? (key : Value) : Option (Int ⊕ Identity) :=
  key.integer?.elim (key.otherIdentity?.map .inr) fun value => some (.inl value)

end Value

namespace Yaml

/-- Integers are compared with integers only, and other keys with those of their type. -/
theorem isSameKey_eq (key other : Value) :
    isSameKey key other =
      match key.integer?, other.integer? with
      | some value, some value' => decide (value = value')
      | some _, none => false
      | none, some _ => false
      | none, none =>
        decide (key.otherIdentity?.isSome ∧ key.otherIdentity? = other.otherIdentity?) := by
  cases key <;> cases other <;>
    simp only [isSameKey, Value.integer?, Value.otherIdentity?] <;> try rfl
  case moment.moment first second =>
    split
    · rename_i time time' known known'
      simp [known, known']
    · rename_i unknown unknown'
      simp [unknown, unknown']
    · rename_i notKnown notUnknown
      simp only [Option.isSome_some, true_and, Option.some.injEq, Value.Identity.moment.injEq]
      cases known : first.universal? with
      | none =>
          cases known' : second.universal? with
          | none => exact absurd known' (notUnknown known)
          | some _ => simp
      | some time =>
          cases known' : second.universal? with
          | none => simp
          | some time' => exact absurd known' (notKnown time time' known)
  all_goals grind

/-- Two keys are the same if they have an identity, and have the same one. -/
theorem isSameKey_iff (key other : Value) :
    isSameKey key other = true ↔ key.identity?.isSome ∧ key.identity? = other.identity? := by
  rw [isSameKey_eq, Value.identity?, Value.identity?]
  have different (value : Int) (identity? : Option Value.Identity) :
      some (Sum.inl value) ≠ identity?.map Sum.inr := by
    cases identity? <;> simp
  have injective : Function.Injective (Option.map (Sum.inr : _ → Int ⊕ Value.Identity)) :=
    Option.map_injective Sum.inr_injective
  cases key.integer? <;> cases other.integer? <;> simp [different, injective.eq_iff]

theorem isSameKey_symm {key other : Value} (same : isSameKey key other = true) :
    isSameKey other key = true := by
  rw [isSameKey_iff] at same ⊢
  exact ⟨same.2 ▸ same.1, same.2.symm⟩

theorem isSameKey_trans {first second third : Value} (left : isSameKey first second = true)
    (right : isSameKey second third = true) : isSameKey first third = true := by
  rw [isSameKey_iff] at left right ⊢
  exact ⟨left.1, left.2.trans right.2⟩

/-- A name is the same key as itself alone. -/
theorem isSameKey_text {key : Value} {name : String} :
    isSameKey key (.text name) = true ↔ key = .text name := by
  rw [isSameKey_eq]
  cases key <;> simp [Value.integer?, Value.otherIdentity?]
  split <;> simp_all

end Yaml

/-! ## Mappings -/

/-- What stands under a name. -/
def valueOf? (pairs : List (Value × Value)) (name : String) : Option Value :=
  (pairs.find? fun pair => Yaml.isSameKey pair.1 (.text name)).map Prod.snd

theorem valueOf?_cons (key value : Value) (pairs : List (Value × Value)) (name : String) :
    valueOf? ((key, value) :: pairs) name =
      if Yaml.isSameKey key (.text name) then some value else valueOf? pairs name := by
  rw [valueOf?, List.find?_cons]
  cases Yaml.isSameKey key (.text name) <;> rfl

theorem valueOf?_eq_none {pairs : List (Value × Value)} {name : String}
    (absent : ∀ pair ∈ pairs, ¬ Yaml.isSameKey pair.1 (.text name) = true) :
    valueOf? pairs name = none := by
  rw [valueOf?, List.find?_eq_none.mpr absent, Option.map_none]

namespace IsMapping

variable {pairs other : List (Value × Value)}

theorem of_keys (isMapping : IsMapping pairs) (sameKeys : pairs.map Prod.fst = other.map Prod.fst) :
    IsMapping other := by
  have different : (pairs.map Prod.fst).Pairwise fun first second =>
      ¬ Yaml.isSameKey first second = true :=
    List.pairwise_map.mpr isMapping
  rw [sameKeys] at different
  exact List.pairwise_map.mp different

theorem perm (isMapping : IsMapping pairs) (permuted : pairs.Perm other) : IsMapping other :=
  permuted.pairwise isMapping fun different same => different (Yaml.isSameKey_symm same)

/-- A key that is a name does not stand a second time. -/
theorem valueOf?_tail {name : String} {value : Value}
    (isMapping : IsMapping ((.text name, value) :: pairs)) : valueOf? pairs name = none :=
  valueOf?_eq_none fun _ member same =>
    List.rel_of_pairwise_cons isMapping member (Yaml.isSameKey_symm same)

/-- What stands under a name does not depend on the order. -/
theorem valueOf?_perm (isMapping : IsMapping pairs) (permuted : pairs.Perm other) (name : String) :
    valueOf? other name = valueOf? pairs name := by
  induction permuted with
  | nil => rfl
  | cons _ _ inductionHypothesis =>
      rw [valueOf?_cons, valueOf?_cons, inductionHypothesis isMapping.tail]
  | swap first second pairs =>
      rw [valueOf?_cons, valueOf?_cons, valueOf?_cons, valueOf?_cons]
      have different := List.rel_of_pairwise_cons isMapping List.mem_cons_self
      split
      · rename_i isFirst
        rw [if_neg fun isSecond => different (Yaml.isSameKey_trans isSecond
          (Yaml.isSameKey_symm isFirst))]
      · rfl
  | trans permuted _ firstHypothesis secondHypothesis =>
      rw [secondHypothesis (isMapping.perm permuted), firstHypothesis isMapping]

end IsMapping

/-! ## Insertion -/

section Insertion

variable {pairs other : List (Value × Value)} {key value : Value}

theorem valueOf?_insertPair (pairs : List (Value × Value)) (key value : Value) (name : String) :
    valueOf? (Yaml.insertPair pairs key value) name =
      if Yaml.isSameKey key (.text name) then some value else valueOf? pairs name := by
  induction pairs with
  | nil =>
      rw [Yaml.insertPair, valueOf?_cons]
  | cons head tail inductionHypothesis =>
      rw [Yaml.insertPair]
      split
      · rename_i same
        have sameName : Yaml.isSameKey head.1 (.text name) = Yaml.isSameKey key (.text name) := by
          rw [Bool.eq_iff_iff]
          exact ⟨Yaml.isSameKey_trans (Yaml.isSameKey_symm same), Yaml.isSameKey_trans same⟩
        rw [valueOf?_cons, valueOf?_cons, sameName]
        split <;> rfl
      · rename_i different
        rw [valueOf?_cons, valueOf?_cons, inductionHypothesis]
        split
        · rename_i isHead
          rw [if_neg fun isKey => different (Yaml.isSameKey_trans isHead
            (Yaml.isSameKey_symm isKey))]
        · rfl

theorem IsMapping.insertPair_perm (isMapping : IsMapping pairs) (permuted : pairs.Perm other)
    (key value : Value) :
    (Yaml.insertPair pairs key value).Perm (Yaml.insertPair other key value) := by
  induction permuted with
  | nil => exact List.Perm.refl _
  | cons _ permuted inductionHypothesis =>
      rw [Yaml.insertPair, Yaml.insertPair]
      split
      · exact permuted.cons _
      · exact (inductionHypothesis isMapping.tail).cons _
  | swap first second pairs =>
      have different := List.rel_of_pairwise_cons isMapping List.mem_cons_self
      simp only [Yaml.insertPair]
      by_cases isFirst : Yaml.isSameKey first.1 key = true
      · have notSecond : ¬ Yaml.isSameKey second.1 key = true := fun isSecond =>
          different (Yaml.isSameKey_trans isSecond (Yaml.isSameKey_symm isFirst))
        rw [if_neg notSecond, if_pos isFirst, if_pos isFirst]
        exact List.Perm.swap _ _ _
      · rw [if_neg isFirst, if_neg isFirst]
        split <;> exact List.Perm.swap _ _ _
  | trans permuted _ firstHypothesis secondHypothesis =>
      exact (firstHypothesis isMapping).trans (secondHypothesis (isMapping.perm permuted))

/-- Two insertions under different keys may change places. -/
theorem insertPair_comm {otherKey : Value}
    (different : ¬ Yaml.isSameKey key otherKey = true)
    (pairs : List (Value × Value)) (value otherValue : Value) :
    (Yaml.insertPair (Yaml.insertPair pairs key value) otherKey otherValue).Perm
      (Yaml.insertPair (Yaml.insertPair pairs otherKey otherValue) key value) := by
  have notKey : ¬ Yaml.isSameKey otherKey key = true := fun same =>
    different (Yaml.isSameKey_symm same)
  induction pairs with
  | nil =>
      simp only [Yaml.insertPair, if_neg different, if_neg notKey]
      exact List.Perm.swap _ _ _
  | cons head tail inductionHypothesis =>
      by_cases isKey : Yaml.isSameKey head.1 key = true
      · have notOther : ¬ Yaml.isSameKey head.1 otherKey = true := fun isOther =>
          different (Yaml.isSameKey_trans (Yaml.isSameKey_symm isKey) isOther)
        simp only [Yaml.insertPair, if_pos isKey, if_neg notOther]
        exact List.Perm.refl _
      · by_cases isOther : Yaml.isSameKey head.1 otherKey = true
        · simp only [Yaml.insertPair, if_neg isKey, if_pos isOther]
          exact List.Perm.refl _
        · simp only [Yaml.insertPair, if_neg isKey, if_neg isOther]
          exact inductionHypothesis.cons _

end Insertion

/-! ## Merges -/

namespace Application

variable {values others values' others' : List (Value × Value)}

theorem mergeValues_cons (values : List (Value × Value)) (pair : Value × Value)
    (others : List (Value × Value)) :
    mergeValues values (pair :: others) =
      mergeValues (Yaml.insertPair values pair.1 pair.2) others :=
  rfl

theorem mergeValues_isMapping (isMapping : IsMapping values) (others : List (Value × Value)) :
    IsMapping (mergeValues values others) :=
  isMapping.insertPairs others

/-- Under a name stands what the later mapping says or, if it says nothing, the earlier one. -/
theorem valueOf?_mergeValues (othersMapping : IsMapping others) (values : List (Value × Value))
    (name : String) :
    valueOf? (mergeValues values others) name =
      (valueOf? others name).or (valueOf? values name) := by
  induction others generalizing values with
  | nil => rfl
  | cons pair others inductionHypothesis =>
      rw [mergeValues_cons, inductionHypothesis othersMapping.tail, valueOf?_insertPair,
        valueOf?_cons]
      split
      · rename_i isName
        have absent : valueOf? others name = none := valueOf?_eq_none fun later member same =>
          List.rel_of_pairwise_cons othersMapping member
            (Yaml.isSameKey_trans isName (Yaml.isSameKey_symm same))
        rw [absent, Option.none_or, Option.some_or]
      · rfl

theorem mergeValues_perm_left (isMapping : IsMapping values) (permuted : values.Perm values')
    (others : List (Value × Value)) :
    (mergeValues values others).Perm (mergeValues values' others) := by
  induction others generalizing values values' with
  | nil => exact permuted
  | cons pair others inductionHypothesis =>
      rw [mergeValues_cons, mergeValues_cons]
      exact inductionHypothesis (isMapping.insertPair pair.1 pair.2)
        (isMapping.insertPair_perm permuted pair.1 pair.2)

/-- A merge of permuted mappings is a permuted merge. -/
theorem mergeValues_perm (isMapping : IsMapping values) (othersMapping : IsMapping others)
    (permuted : values.Perm values') (othersPermuted : others.Perm others') :
    (mergeValues values others).Perm (mergeValues values' others') := by
  induction othersPermuted generalizing values values' with
  | nil => exact permuted
  | cons pair _ inductionHypothesis =>
      rw [mergeValues_cons, mergeValues_cons]
      exact inductionHypothesis (isMapping.insertPair pair.1 pair.2) othersMapping.tail
        (isMapping.insertPair_perm permuted pair.1 pair.2)
  | swap first second others =>
      have different := List.rel_of_pairwise_cons othersMapping List.mem_cons_self
      rw [mergeValues_cons, mergeValues_cons, mergeValues_cons, mergeValues_cons]
      refine mergeValues_perm_left
        ((isMapping.insertPair second.1 second.2).insertPair first.1 first.2) ?_ others
      refine (insertPair_comm different values second.2 first.2).trans ?_
      exact (isMapping.insertPair first.1 first.2).insertPair_perm
        (isMapping.insertPair_perm permuted first.1 first.2) second.1 second.2
  | trans othersPermuted _ firstHypothesis secondHypothesis =>
      exact (firstHypothesis isMapping othersMapping permuted).trans
        (secondHypothesis (isMapping.perm permuted) (othersMapping.perm othersPermuted)
          (List.Perm.refl values'))

end Application

end ApiDocs
