import ApiDocs.Proofs.Markup.Segments
import ApiDocs.Proofs.Markup.Wording

/-!
# The first paragraph of a comment

The summary of a comment and the first block that the comment is rendered as are found by two
different readers.  Where all the lines of a comment are text, the two agree just when the first
blank line between two paragraphs is an empty line.
-/

namespace ApiDocs.Markup

open ApiDocs.Text

/-! ## Lines in front of an empty one -/

/-- The lines in front of the first that is empty. -/
def upToEmpty (lines : List (List Char)) : List (List Char) :=
  lines.takeWhile fun line => !line.isEmpty

section UpToEmpty

variable {line : List Char} {lines : List (List Char)}

theorem upToEmpty_empty (lines : List (List Char)) : upToEmpty ([] :: lines) = [] := rfl

theorem upToEmpty_cons (nonempty : line ≠ []) (lines : List (List Char)) :
    upToEmpty (line :: lines) = line :: upToEmpty lines := by
  rw [upToEmpty, List.takeWhile_cons_of_pos (by simpa using nonempty), upToEmpty]

/-- What stands behind an empty line does not matter. -/
theorem upToEmpty_append_empty (first rest : List (List Char)) :
    upToEmpty (first ++ [] :: rest) = upToEmpty first := by
  induction first with
  | nil => rfl
  | cons line first inductionHypothesis =>
      by_cases empty : line = []
      · rw [empty, List.cons_append, upToEmpty_empty, upToEmpty_empty]
      · rw [List.cons_append, upToEmpty_cons empty, upToEmpty_cons empty, inductionHypothesis]

theorem upToEmpty_eq_self (nonempty : ∀ line ∈ lines, line ≠ []) : upToEmpty lines = lines := by
  rw [upToEmpty, List.takeWhile_eq_self_iff]
  simpa using nonempty

theorem exists_eq_upToEmpty_append (someEmpty : [] ∈ lines) :
    ∃ rest, lines = upToEmpty lines ++ [] :: rest := by
  obtain ⟨first, rest, rfl, notBefore⟩ := List.eq_append_cons_of_mem someEmpty
  have nonempty : ∀ line ∈ first, line ≠ [] := by
    rintro line member rfl
    exact notBefore member
  exact ⟨rest, by rw [upToEmpty_append_empty, upToEmpty_eq_self nonempty]⟩

theorem upToEmpty_dropWhile_eq_nil
    (nothing : upToEmpty (lines.dropWhile List.isEmpty) = []) :
    lines.dropWhile List.isEmpty = [] := by
  have stops := List.head?_dropWhile_not List.isEmpty lines
  generalize lines.dropWhile List.isEmpty = rest at nothing stops ⊢
  cases rest with
  | nil => rfl
  | cons line rest =>
      have nonempty : line ≠ [] := fun empty => by simp [empty] at stops
      rw [upToEmpty_cons nonempty] at nothing
      cases nothing

end UpToEmpty

/-! ## The first block -/

/-- Blank or plain, that is, no fence, heading or bullet. -/
def IsText (line : List Char) : Prop := trim line = [] ∨ IsPlain (trim line)

instance (line : List Char) : Decidable (IsText line) :=
  decidable_of_iff (trim line = [] ∨ LineKind.of (trim line) = .plain)
    (or_congr_right of_eq_plain_iff)

/-- The paragraph of some lines, if there are any. -/
def paragraph? : List (List Char) → Option Block
  | [] => none
  | line :: lines => some (.paragraph (line :: lines))

theorem of_mem_paragraph? {lines : List (List Char)} {block : Block}
    (isParagraph : block ∈ paragraph? lines) :
    lines ≠ [] ∧ block = .paragraph lines := by
  cases lines with
  | nil => cases isParagraph
  | cons line lines => exact ⟨List.cons_ne_nil _ _, (Option.some.inj isParagraph).symm⟩

/-- The lines of the first paragraph of a text. -/
def firstParagraph (text : List Char) : List (List Char) :=
  upToEmpty ((trimmedLines text).dropWhile List.isEmpty)

section FirstBlock

variable {lines : List (List Char)}

theorem head?_gather_paragraph (areText : ∀ line ∈ lines, IsText line)
    (before : List (List Char)) :
    (gather (.paragraph before) lines).head? =
      some (.paragraph (before ++ upToEmpty (lines.map trim))) := by
  induction lines generalizing before with
  | nil =>
      rw [gather, List.map_nil, upToEmpty, List.takeWhile_nil, List.append_nil]
      rfl
  | cons line lines inductionHypothesis =>
      obtain ⟨lineText, linesText⟩ := List.forall_mem_cons.mp areText
      rcases lineText with isBlank | isPlain
      · simp only [gather, kind_blank isBlank, List.head?_cons]
        rw [List.map_cons, isBlank, upToEmpty_empty, List.append_nil]
      · simp only [gather, kind_plain isPlain, inductionHypothesis linesText, List.map_cons,
          upToEmpty_cons isPlain.nonempty, List.append_assoc, List.singleton_append]

/-- Lines of text begin with blank lines, behind which the first paragraph stands. -/
theorem head?_gather_nothing (areText : ∀ line ∈ lines, IsText line) :
    (gather .nothing lines).head? =
      paragraph? (upToEmpty ((lines.map trim).dropWhile List.isEmpty)) := by
  induction lines with
  | nil => rfl
  | cons line lines inductionHypothesis =>
      obtain ⟨lineText, linesText⟩ := List.forall_mem_cons.mp areText
      rcases lineText with isBlank | isPlain
      · simp only [gather, kind_blank isBlank, inductionHypothesis linesText]
        rw [List.map_cons, isBlank]
        rfl
      · have starts : (trim line :: lines.map trim).dropWhile List.isEmpty =
            trim line :: lines.map trim :=
          List.dropWhile_cons_of_neg (by simpa using isPlain.nonempty)
        simp only [gather, kind_plain isPlain, List.map_cons, starts,
          head?_gather_paragraph linesText, upToEmpty_cons isPlain.nonempty,
          List.singleton_append, paragraph?]

theorem head?_blocks {text : List Char} (areText : ∀ line ∈ Text.lines text, IsText line) :
    (blocks text).head? = paragraph? (firstParagraph text) :=
  head?_gather_nothing areText

end FirstBlock

/-! ## The text of the summary -/

theorem exists_beforeEmptyLine (text : List Char) :
    beforeEmptyLine text = text ∨
      ∃ rest, text = beforeEmptyLine text ++ '\n' :: '\n' :: rest := by
  fun_induction beforeEmptyLine text with
  | case1 => exact Or.inl rfl
  | case2 rest => exact Or.inr ⟨rest, rfl⟩
  | case3 head rest _ inductionHypothesis =>
      refine inductionHypothesis.imp (congrArg _) ?_
      rintro ⟨further, split⟩
      exact ⟨further, congrArg _ split⟩

theorem upToEmpty_trimmedLines_append (first second : List Char) :
    upToEmpty (trimmedLines (first ++ '\n' :: '\n' :: second)) =
      upToEmpty (trimmedLines first) := by
  rw [trimmedLines, trimmedLines]
  rcases lines_append_emptyLine first second with parted | parted
  all_goals
    rw [parted, List.map_append]
    exact upToEmpty_append_empty _ _

/-- What stands behind the first empty line is not in front of the first blank one. -/
theorem upToEmpty_beforeEmptyLine (text : List Char) :
    upToEmpty (trimmedLines (beforeEmptyLine text)) = upToEmpty (trimmedLines text) := by
  rcases exists_beforeEmptyLine text with whole | ⟨rest, split⟩
  · rw [whole]
  · conv_rhs => rw [split, upToEmpty_trimmedLines_append]

/-- The first paragraph is the part of the summary in front of the first blank line. -/
theorem firstParagraph_eq (text : List Char) :
    firstParagraph text = upToEmpty (trimmedLines (beforeEmptyLine (trim text))) := by
  obtain ⟨count, eq⟩ := exists_trimmedLines_trim text
  rw [firstParagraph, upToEmpty_beforeEmptyLine, eq]
  cases count with
  | zero => rw [List.replicate_zero, List.append_nil]
  | succ fewer => rw [List.replicate_succ, upToEmpty_append_empty]

/-! ## Spaces -/

theorem StandsFor.count_space {tokens : List Token} {text : List Char}
    (stands : StandsFor tokens text) :
    (spell tokens).count ' ' = text.count ' ' := by
  have noSpace {element : Element} {delimiter : List Char}
      (member : delimiter ∈ element.delimiters) : delimiter.count ' ' = 0 := by
    cases element <;> revert delimiter <;> decide
  induction stands with
  | nil => rfl
  | @letter character tokens text _ inductionHypothesis =>
      have single : (Token.letter character).spelling.count ' ' = [character].count ' ' := by
        by_cases special : IsSpecial character
        · rcases special with rfl | rfl | rfl <;> decide
        · rw [Token.spelling, escapeMarkupCharacter_of_plain special]
      rw [spell_cons, List.count_append, single, inductionHypothesis, ← List.count_append]
      rfl
  | @opens element delimiter member tokens text _ inductionHypothesis =>
      have tag : (Token.opens element).spelling.count ' ' = 0 := by cases element <;> decide
      rw [spell_cons, List.count_append, List.count_append, tag, noSpace member,
        inductionHypothesis]
  | @closes element delimiter member tokens text _ inductionHypothesis =>
      have tag : (Token.closes element).spelling.count ' ' = 0 := by cases element <;> decide
      rw [spell_cons, List.count_append, List.count_append, tag, noSpace member,
        inductionHypothesis]

/-- Inline markup neither adds spaces nor removes any. -/
theorem count_space_renderInline (text : List Char) :
    (renderInline text).count ' ' = text.count ' ' := by
  have stands : StandsFor (inlined text) text :=
    ((StandsFor.of_letters text).marked codeSearch).marked boldSearch
  rw [renderInline_eq, stands.count_space]

/-- Further pieces, joined by spaces, bring further spaces. -/
theorem count_space_join_lt {first : List (List Char)} (nonempty : first ≠ [])
    (piece : List Char) (more : List (List Char)) :
    (join [' '] first).count ' ' < (join [' '] (first ++ piece :: more)).count ' ' := by
  rw [join_append nonempty (List.cons_ne_nil piece more), List.count_append, List.count_append,
    List.count_singleton_self]
  omega

/-! ## Summaries and first blocks -/

section Summaries

variable {text : List Char}

/-- Where there is no block there is no line to summarize. -/
theorem summary_of_no_block (areText : ∀ line ∈ lines text, IsText line)
    (noBlock : blocks text = []) :
    summary text = [] := by
  have noParagraph : firstParagraph text = [] := by
    have noFirst := head?_blocks areText
    rw [noBlock] at noFirst
    cases paragraph : firstParagraph text with
    | nil => rfl
    | cons line more =>
        rw [paragraph] at noFirst
        cases noFirst
  have noLine : trimmedLines (trim text) = [] := by
    obtain ⟨count, eq⟩ := exists_trimmedLines_trim text
    rw [upToEmpty_dropWhile_eq_nil noParagraph] at eq
    exact (List.append_eq_nil_iff.mp eq.symm).1
  have empty : trim text = [] := by
    by_contra nonempty
    exact lines_ne_nil nonempty (List.map_eq_nil_iff.mp noLine)
  rw [summary, empty]
  decide +kernel

theorem render_paragraph (offset : Int) (lines : List (List Char)) :
    (Block.paragraph lines).render offset =
      "<p>".toList ++ renderInline (join [' '] lines) ++ "</p>".toList := by
  simp [Block.render, element]

/-- The first block of lines of text is the summary as a paragraph, unless the summary goes on
behind a blank line.  It goes on where that line holds white space, and where a line break beside
it is no line feed.  Without a block the summary is empty. -/
theorem first_block_eq_summary_iff (offset : Int) (areText : ∀ line ∈ lines text, IsText line) :
    (blocks text = [] → summary text = []) ∧
      ∀ first ∈ (blocks text).head?,
        first.render offset = "<p>".toList ++ summary text ++ "</p>".toList ↔
          ∀ line ∈ lines (beforeEmptyLine (trim text)), trim line ≠ [] := by
  refine ⟨summary_of_no_block areText, fun first isFirst => ?_⟩
  rw [head?_blocks areText] at isFirst
  obtain ⟨nonempty, rfl⟩ := of_mem_paragraph? isFirst
  rw [render_paragraph]
  constructor
  · intro same line isLine isBlank
    have someEmpty : [] ∈ trimmedLines (beforeEmptyLine (trim text)) :=
      List.mem_map.mpr ⟨line, isLine, isBlank⟩
    obtain ⟨rest, split⟩ := exists_eq_upToEmpty_append someEmpty
    rw [← firstParagraph_eq] at split
    -- the summary is the longer of the two, by a space at least
    have further := count_space_join_lt nonempty [] rest
    have inner := List.append_cancel_left (List.append_cancel_right same)
    have counts := congrArg (List.count ' ') inner
    rw [summary, ← trimmedLines, split, count_space_renderInline,
      count_space_renderInline] at counts
    omega
  · intro noBlank
    have whole : firstParagraph text = trimmedLines (beforeEmptyLine (trim text)) := by
      rw [firstParagraph_eq]
      apply upToEmpty_eq_self
      intro trimmed member
      obtain ⟨line, isLine, rfl⟩ := List.mem_map.mp member
      exact noBlank line isLine
    rw [whole]
    rfl

theorem first_block_eq_summary_of_indented :
    (∀ line ∈ lines "  a\n  b\n\nc".toList, IsText line) ∧
      ∀ first ∈ (blocks "  a\n  b\n\nc".toList).head?,
        first.render 0 = "<p>".toList ++ summary "  a\n  b\n\nc".toList ++ "</p>".toList := by
  have areText : ∀ line ∈ lines "  a\n  b\n\nc".toList, IsText line := by decide +kernel
  refine ⟨areText, fun first isFirst => ?_⟩
  apply ((first_block_eq_summary_iff 0 areText).2 first isFirst).mpr
  decide +kernel

/-- A line of white space ends the first block, but not the summary. -/
theorem not_first_block_eq_summary :
    (∀ line ∈ lines "a\n \nb".toList, IsText line) ∧
      renderComment 0 "a\n \nb".toList = "<p>a</p>\n<p>b</p>".toList ∧
      summary "a\n \nb".toList = "a  b".toList ∧
      ∃ first ∈ (blocks "a\n \nb".toList).head?,
        first.render 0 ≠ "<p>".toList ++ summary "a\n \nb".toList ++ "</p>".toList := by
  refine ⟨by decide +kernel, by decide +kernel, by decide +kernel, ?_⟩
  exact ⟨.paragraph [['a']], by decide +kernel, by decide +kernel⟩

end Summaries

end ApiDocs.Markup
