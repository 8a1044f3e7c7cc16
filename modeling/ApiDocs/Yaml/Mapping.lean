import ApiDocs.Settings.Value

/-!
Mappings: lists of pairs in which no key stands twice.
-/

namespace ApiDocs

namespace Yaml

/-- The integer that a double is, if it is one. -/
def integral? : Double → Option Int
  | .finite isNegative mantissa exponent =>
    let (numerator, denominator) := Double.quotient mantissa exponent
    if numerator % denominator = 0 then
      some (Double.signed isNegative (numerator / denominator))
    else none
  | _ => none

/-- Numbers are the same key if they are equal, whatever their types, and so are moments that are
at the same time by universal time. -/
def isSameKey (key other : Value) : Bool :=
  let integer? : Value → Option Int
    | .boolean value => some (if value then 1 else 0)
    | .integer value => some value
    | .double value => integral? value
    | _ => none
  match integer? key, integer? other with
  | some value, some value' => value = value'
  | some _, none => false
  | none, some _ => false
  | none, none =>
    match key, other with
    | .null, .null => true
    | .double value, .double value' => value ≠ .nan && value = value'
    | .text value, .text value' => value = value'
    | .bytes value, .bytes value' => value = value'
    | .date value, .date value' => value = value'
    | .moment value, .moment value' =>
      match value.universal?, value'.universal? with
      | some time, some time' => time = time'
      | none, none => value = value'
      | _, _ => false
    | _, _ => false

/-- The value of a key is replaced; the key itself stays as it was first written. -/
def insertPair (pairs : List (Value × Value)) (key value : Value) : List (Value × Value) :=
  match pairs with
  | [] => [(key, value)]
  | head :: tail =>
    if isSameKey head.1 key then (head.1, value) :: tail else head :: insertPair tail key value

end Yaml

/-- No key stands twice. -/
def IsMapping (pairs : List (Value × Value)) : Prop :=
  pairs.Pairwise fun first second => ¬ Yaml.isSameKey first.1 second.1 = true

section Insertion

variable {pairs : List (Value × Value)} {key value : Value}

theorem insertPair_keys {pair : Value × Value} (member : pair ∈ Yaml.insertPair pairs key value) :
    pair.1 = key ∨ ∃ old ∈ pairs, pair.1 = old.1 := by
  induction pairs with
  | nil =>
      rw [Yaml.insertPair, List.mem_singleton] at member
      exact Or.inl (by rw [member])
  | cons head tail inductionHypothesis =>
      rw [Yaml.insertPair] at member
      split at member
      · rcases List.mem_cons.mp member with rfl | inTail
        · exact Or.inr ⟨head, List.mem_cons_self, rfl⟩
        · exact Or.inr ⟨pair, List.mem_cons_of_mem head inTail, rfl⟩
      · rcases List.mem_cons.mp member with rfl | inTail
        · exact Or.inr ⟨pair, List.mem_cons_self, rfl⟩
        · rcases inductionHypothesis inTail with isKey | ⟨old, oldMember, sameKey⟩
          · exact Or.inl isKey
          · exact Or.inr ⟨old, List.mem_cons_of_mem head oldMember, sameKey⟩

theorem IsMapping.insertPair (isMapping : IsMapping pairs) (key value : Value) :
    IsMapping (Yaml.insertPair pairs key value) := by
  induction pairs with
  | nil => exact List.pairwise_singleton _ _
  | cons head tail inductionHypothesis =>
      rw [Yaml.insertPair]
      split
      · exact List.pairwise_cons.mpr (List.pairwise_cons.mp isMapping)
      · rename_i different
        refine List.pairwise_cons.mpr ⟨?_, inductionHypothesis isMapping.tail⟩
        intro pair member
        rcases insertPair_keys member with isKey | ⟨old, oldMember, sameKey⟩
        · rw [isKey]
          exact different
        · rw [sameKey]
          exact List.rel_of_pairwise_cons isMapping oldMember

/-- Insertion after insertion, a mapping stays one. -/
theorem IsMapping.insertPairs (isMapping : IsMapping pairs) (others : List (Value × Value)) :
    IsMapping (others.foldl (fun pairs pair => Yaml.insertPair pairs pair.1 pair.2) pairs) := by
  induction others generalizing pairs with
  | nil => exact isMapping
  | cons pair others inductionHypothesis =>
      exact inductionHypothesis (isMapping.insertPair pair.1 pair.2)

end Insertion

end ApiDocs
