import ApiDocs.Proofs.Markup.Segments

/-!
# Comments in two parts

A comment that is put in front of another one, with an empty line between the two, is rendered as
the one and then the other.  Only code that the first does not end goes on behind the empty line.
-/

namespace ApiDocs.Markup

open ApiDocs.Text

/-! ## Code behind a line -/

/-- Whether the lines behind a line are code, given whether the line itself is. -/
def codeAfter (isCode : Bool) (line : List Char) : Bool :=
  if isCode then decide (¬ EndsCode line) else (fence? (trim line)).isSome

/-- Whether a comment ends inside code. -/
def endsInCode (text : List Char) : Bool := (lines text).foldl codeAfter false

/-- Whether the block that is pending is code. -/
def Pending.isCode : Pending → Bool
  | code _ _ => true
  | nothing | list _ | paragraph _ => false

def LineKind.isFence : LineKind → Bool
  | fence _ => true
  | blank | heading _ _ | bullet _ | plain => false

/-- Outside of code a fence begins code, and nothing else does. -/
theorem codeAfter_false (line : List Char) :
    codeAfter false line = (LineKind.of (trim line)).isFence := by
  cases kind : LineKind.of (trim line) with
  | fence language =>
      have found := fence?_eq_some_iff.mpr (of_eq_fence_iff.mp kind)
      exact congrArg Option.isSome found
  | blank | heading | bullet | plain =>
      have noFence : fence? (trim line) = none := by
        refine fence?_eq_none_iff.mpr fun language isFence => ?_
        cases kind.symm.trans (of_eq_fence_iff.mpr isFence)
      exact congrArg Option.isSome noFence

/-! ## One line -/

/-- A line finishes some blocks and leaves a block pending, whatever follows the line. -/
structure Steps (pending : Pending) (line : List Char) (finished : List Block) (next : Pending) :
    Prop where
  isCode : next.isCode = codeAfter pending.isCode line
  gather_eq : ∀ rest, gather pending (line :: rest) = finished ++ gather next rest

/-- Outside of code a fence, a blank line and a heading finish what is pending, a bullet and plain
text may also go on with it. -/
theorem exists_steps_of_text {pending : Pending} (isText : pending.isCode = false)
    (line : List Char) :
    ∃ finished next, Steps pending line finished next := by
  have code : codeAfter pending.isCode line = (LineKind.of (trim line)).isFence := by
    rw [isText, codeAfter_false]
  cases kind : LineKind.of (trim line) with
  | fence language =>
      rw [kind] at code
      refine ⟨pending.close, .code language [], code.symm, fun rest => ?_⟩
      cases pending with
      | code => cases isText
      | nothing | list | paragraph => simp [gather, kind, Pending.close]
  | blank =>
      rw [kind] at code
      refine ⟨pending.close, .nothing, code.symm, fun rest => ?_⟩
      cases pending with
      | code => cases isText
      | nothing | list | paragraph => simp [gather, kind, Pending.close]
  | heading level title =>
      rw [kind] at code
      refine ⟨pending.close ++ [.heading level title], .nothing, code.symm, fun rest => ?_⟩
      cases pending with
      | code => cases isText
      | nothing | list | paragraph => simp [gather, kind, Pending.close]
  | bullet item =>
      rw [kind] at code
      cases pending with
      | code => cases isText
      | nothing => exact ⟨[], .list [item], code.symm, by simp [gather, kind]⟩
      | list items => exact ⟨[], .list (items ++ [item]), code.symm, by simp [gather, kind]⟩
      | paragraph lines =>
          exact ⟨[.paragraph lines], .list [item], code.symm, by simp [gather, kind]⟩
  | plain =>
      rw [kind] at code
      cases pending with
      | code => cases isText
      | nothing => exact ⟨[], .paragraph [trim line], code.symm, by simp [gather, kind]⟩
      | list items =>
          exact ⟨[], .list (continueItem (trim line) items), code.symm, by simp [gather, kind]⟩
      | paragraph lines =>
          exact ⟨[], .paragraph (lines ++ [trim line]), code.symm, by simp [gather, kind]⟩

theorem exists_steps (pending : Pending) (line : List Char) :
    ∃ finished next, Steps pending line finished next := by
  cases pending with
  | nothing | list | paragraph => exact exists_steps_of_text rfl line
  | code language lines =>
      by_cases ends : EndsCode line
      · refine ⟨[.code language lines], .nothing, ?_, fun rest => ?_⟩
        · exact (decide_eq_false (not_not_intro ends)).symm
        · rw [gather]
          exact if_pos ends
      · refine ⟨[], .code language (lines ++ [line]), ?_, fun rest => ?_⟩
        · exact (decide_eq_true ends).symm
        · rw [gather]
          exact if_neg ends

/-! ## Lines in two parts -/

/-- An empty line finishes what is pending, unless that is code. -/
theorem gather_empty {pending : Pending} (isText : pending.isCode = false)
    (rest : List (List Char)) :
    gather pending ([] :: rest) = pending.close ++ gather .nothing rest := by
  have kind : LineKind.of (trim []) = .blank := rfl
  cases pending with
  | code => cases isText
  | nothing | list | paragraph => simp [gather, kind, Pending.close]

/-- Nothing is carried over an empty line that is outside of code. -/
theorem gather_append_empty {pending : Pending} {first : List (List Char)}
    (closed : first.foldl codeAfter pending.isCode = false) (second : List (List Char)) :
    gather pending (first ++ [] :: second) = gather pending first ++ gather .nothing second := by
  induction first generalizing pending with
  | nil =>
      have unfinished : gather pending [] = pending.close := by rw [gather]
      rw [List.nil_append, gather_empty closed, unfinished]
  | cons line first inductionHypothesis =>
      obtain ⟨finished, next, steps⟩ := exists_steps pending line
      rw [List.foldl_cons, ← steps.isCode] at closed
      rw [List.cons_append, steps.gather_eq, steps.gather_eq, inductionHypothesis closed,
        List.append_assoc]

theorem blocks_append {first : List Char} (closed : endsInCode first = false)
    (second : List Char) :
    blocks (first ++ ("\n\n".toList ++ second)) = blocks first ++ blocks second := by
  have parted : first ++ ("\n\n".toList ++ second) = first ++ '\n' :: '\n' :: second := rfl
  have closedLines : (lines first).foldl codeAfter Pending.nothing.isCode = false := closed
  rw [parted, blocks, blocks, blocks]
  rcases lines_append_emptyLine first second with one | two
  · rw [one, gather_append_empty closedLines]
  · have nothing : gather .nothing ([] :: lines second) = gather .nothing (lines second) :=
      gather_empty rfl (lines second)
    rw [two, gather_append_empty closedLines, nothing]

/-! ## Comments in two parts -/

/-- No block is rendered as nothing. -/
theorem render_ne_nil (offset : Int) (block : Block) : block.render offset ≠ [] := by
  cases block with
  | heading | list | paragraph => exact List.cons_ne_nil _ _
  | code language lines =>
      exact List.append_ne_nil_of_right_ne_nil _ (by decide)

/-- The blocks of a comment that does not end in code, an empty line and another comment are those
of the one and then those of the other, and so is what they are rendered as. -/
theorem renderComment_append (offset : Int) {first : List Char}
    (closed : endsInCode first = false) (second : List Char) :
    blocks (first ++ ("\n\n".toList ++ second)) = blocks first ++ blocks second ∧
      renderComment offset (first ++ ("\n\n".toList ++ second)) =
        join ['\n']
          ([renderComment offset first, renderComment offset second].filter (· ≠ [])) := by
  have arePieces (text : List Char) :
      ∀ piece ∈ (blocks text).map (Block.render offset), piece ≠ [] := by
    intro piece member
    obtain ⟨block, _, rfl⟩ := List.mem_map.mp member
    exact render_ne_nil offset block
  have parts := blocks_append closed second
  refine ⟨parts, ?_⟩
  rw [renderComment, renderComment, renderComment, parts, List.map_append,
    join_append_eq_filter (arePieces first) (arePieces second)]

theorem renderComment_append_of_list :
    endsInCode "- a\n  b".toList = false ∧
      renderComment 0 ("- a\n  b".toList ++ ("\n\n".toList ++ "c".toList)) =
        "<ul><li>a b</li></ul>\n<p>c</p>".toList := by
  have closed : endsInCode "- a\n  b".toList = false := by decide +kernel
  refine ⟨closed, (renderComment_append 0 closed "c".toList).2.trans ?_⟩
  decide +kernel

end ApiDocs.Markup
