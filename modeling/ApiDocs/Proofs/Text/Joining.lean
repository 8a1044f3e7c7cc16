import ApiDocs.Text.Lines

/-!
# Joined pieces

How pieces in two parts are joined, and when nothing comes of joining them.
-/

namespace ApiDocs.Text

variable {separator : List Char} {first second pieces : List (List Char)}

theorem join_singleton (piece : List Char) : join separator [piece] = piece :=
  List.intercalate_singleton

theorem join_cons_of_ne_nil (nonempty : pieces ≠ []) (piece : List Char) :
    join separator (piece :: pieces) = piece ++ (separator ++ join separator pieces) := by
  obtain ⟨next, others, rfl⟩ := List.exists_cons_of_ne_nil nonempty
  rw [join, List.intercalate_cons_cons, join, List.append_assoc]

theorem join_append (firstNonempty : first ≠ []) (secondNonempty : second ≠ []) :
    join separator (first ++ second) =
      join separator first ++ (separator ++ join separator second) := by
  induction first with
  | nil => exact absurd rfl firstNonempty
  | cons piece first inductionHypothesis =>
      by_cases single : first = []
      · rw [single, List.singleton_append, join_cons_of_ne_nil secondNonempty, join_singleton]
      · rw [List.cons_append, join_cons_of_ne_nil (List.append_ne_nil_of_left_ne_nil single second),
          inductionHypothesis single, join_cons_of_ne_nil single]
        simp only [List.append_assoc]

theorem join_eq_nil_iff (nonempty : ∀ piece ∈ pieces, piece ≠ []) :
    join separator pieces = [] ↔ pieces = [] := by
  cases pieces with
  | nil => exact iff_of_true rfl rfl
  | cons piece pieces =>
      refine iff_of_false ?_ (List.cons_ne_nil _ _)
      have notEmpty := nonempty piece List.mem_cons_self
      by_cases single : pieces = []
      · rw [single, join_singleton]
        exact notEmpty
      · rw [join_cons_of_ne_nil single]
        exact List.append_ne_nil_of_left_ne_nil notEmpty _

/-- Pieces that are not empty are joined in two parts, of which one that is empty is left out. -/
theorem join_append_eq_filter (firstPieces : ∀ piece ∈ first, piece ≠ [])
    (secondPieces : ∀ piece ∈ second, piece ≠ []) :
    join separator (first ++ second) =
      join separator ([join separator first, join separator second].filter (· ≠ [])) := by
  have empty : join separator [] = [] := rfl
  have joined {pieces : List (List Char)} (arePieces : ∀ piece ∈ pieces, piece ≠ [])
      (nonempty : pieces ≠ []) : join separator pieces ≠ [] :=
    fun isEmpty => nonempty ((join_eq_nil_iff arePieces).mp isEmpty)
  by_cases noFirst : first = [] <;> by_cases noSecond : second = []
  · rw [noFirst, noSecond]
    rfl
  · simp [noFirst, empty, joined secondPieces noSecond, join_singleton]
  · simp [noSecond, empty, joined firstPieces noFirst, join_singleton]
  · simp [joined firstPieces noFirst, joined secondPieces noSecond, join_append noFirst noSecond,
      join_cons_of_ne_nil, join_singleton]

end ApiDocs.Text
