import ApiDocs.Yaml.Document

/-!
# Keys of documents

No key stands twice in a mapping that is read: pairs of a mapping are inserted one after the other,
and nothing else is a mapping.
-/

namespace ApiDocs

section Outcomes

variable {Answer Other Fault : Type} {outcome : Except Fault Answer}

theorem exists_of_map_ok {change : Answer → Other} {result : Other}
    (answers : outcome.map change = .ok result) :
    ∃ answer, outcome = .ok answer ∧ change answer = result := by
  cases outcome with
  | error fault => cases answers
  | ok answer => exact ⟨answer, rfl, Except.ok.inj answers⟩

theorem eq_ok_of_mapError {change : Fault → Other} {answer : Answer}
    (answers : outcome.mapError change = .ok answer) : outcome = .ok answer := by
  cases outcome with
  | error fault => cases answers
  | ok result => rw [Except.ok.inj answers]

theorem exists_of_bind_ok {next : Answer → Except Fault Other} {result : Other}
    (answers : outcome >>= next = .ok result) :
    ∃ answer, outcome = .ok answer ∧ next answer = .ok result := by
  cases outcome with
  | error failure => cases answers
  | ok answer => exact ⟨answer, rfl, answers⟩

end Outcomes

namespace Yaml

/-! ## Scalars -/

theorem timestamp_ne_mapping {timestamp : Timestamp} {pairs : List (Value × Value)} :
    timestamp.value ≠ .ok (.mapping pairs) := by
  rw [Timestamp.value]
  split
  · cases Timestamp.checkDate timestamp.date <;> exact nofun
  · rename_i time _
    cases Timestamp.checkDate timestamp.date <;> cases Timestamp.checkTime time <;>
      (dsimp only; split <;> try split) <;> exact nofun

theorem scalarValue_ne_mapping {tag : Tag} {text : String} {pairs : List (Value × Value)} :
    scalarValue tag text ≠ .ok (.mapping pairs) := by
  cases tag with
  | null => exact nofun
  | boolean =>
      rw [scalarValue, booleanOf]
      split <;> exact nofun
  | integer =>
      rw [scalarValue]
      cases integerOf text.toList <;> exact nofun
  | double =>
      rw [scalarValue]
      cases doubleOf text.toList <;> exact nofun
  | binary =>
      rw [scalarValue]
      split <;> exact nofun
  | timestamp =>
      rw [scalarValue]
      split
      · intro isMapping
        exact timestamp_ne_mapping (eq_ok_of_mapError isMapping)
      · exact nofun
  | _ => exact nofun

/-! ## Collections -/

section Collections

variable {collections : Collections} {level bound number : Nat} {outer : List Nat}
  {pairs : List (Value × Value)}

/-- The pairs of a mapping are inserted one after the other. -/
theorem pairsAt_isMapping {nodes : List (Node × Node)}
    (built : pairsAt collections level outer number nodes bound = .ok pairs) :
    IsMapping pairs := by
  cases bound with
  | zero =>
      rw [pairsAt] at built
      cases built
  | succ bound =>
      rw [pairsAt] at built
      split at built
      · cases built
      · obtain ⟨inserted, _, rfl⟩ := exists_of_map_ok built
        exact IsMapping.insertPairs List.Pairwise.nil inserted

theorem tuplesAt_ne_mapping {items : List Node} :
    tuplesAt collections level outer items bound ≠ .ok (.mapping pairs) := by
  intro built
  cases bound with
  | zero =>
      rw [tuplesAt] at built
      cases built
  | succ bound =>
      rw [tuplesAt] at built
      obtain ⟨_, _, same⟩ := exists_of_map_ok built
      cases same

theorem unlessInside_mapping {isMapping : Bool} {value : Leveled Value}
    (built : unlessInside outer number isMapping value = .ok (.mapping pairs)) :
    value = .ok (.mapping pairs) := by
  rw [unlessInside] at built
  split at built
  · cases built
  · exact built

theorem valueAt_isMapping {node : Node}
    (built : valueAt collections level outer node bound = .ok (.mapping pairs)) :
    IsMapping pairs := by
  cases bound with
  | zero =>
      rw [valueAt] at built
      cases built
  | succ bound =>
      unfold valueAt at built
      split at built
      · obtain ⟨_, _, same⟩ := exists_of_map_ok (unlessInside_mapping built)
        cases same
      · obtain ⟨inserted, inserts, same⟩ := exists_of_map_ok (unlessInside_mapping built)
        cases same
        exact pairsAt_isMapping inserts
      · obtain ⟨_, _, same⟩ := exists_of_map_ok (unlessInside_mapping built)
        cases same
      · exact absurd (unlessInside_mapping built) tuplesAt_ne_mapping
      · exact absurd (unlessInside_mapping built) tuplesAt_ne_mapping
      · split at built
        · cases built
        · split at built
          · exact absurd (eq_ok_of_mapError built) scalarValue_ne_mapping
          · cases built

end Collections

/-! ## Documents -/

theorem read_isMapping {text : List Char} {pairs : List (Value × Value)}
    (reads : read text = .ok (some (.mapping pairs))) : IsMapping pairs := by
  obtain ⟨document, _, answers⟩ := exists_of_bind_ok reads
  split at answers
  · cases answers
  · split at answers
    · rename_i value built
      cases answers
      exact valueAt_isMapping built
    · cases answers

theorem readFile_isMapping {bytes : List UInt8} {pairs : List (Value × Value)}
    (reads : readFile bytes = .ok (some (.mapping pairs))) : IsMapping pairs := by
  obtain ⟨text, _, reads⟩ := exists_of_bind_ok reads
  exact read_isMapping reads

end Yaml

end ApiDocs
