import ApiDocs.Markup.Block
import ApiDocs.Proofs.Markup.Spans

/-!
# Rendered comments

The markup of a comment, whatever the comment is, has only the tags of headings, lists, paragraphs
and code, none of them with a link.
-/

namespace ApiDocs.Markup

open ApiDocs.Text

/-! ## Levels of headings -/

theorem level_of_heading? {line title : List Char} {level : Nat}
    (found : heading? line = some (level, title)) :
    1 ≤ level ∧ level ≤ 6 := by
  rw [heading?] at found
  split at found
  · rename_i inside
    obtain ⟨_, _, pair⟩ := Option.map_eq_some_iff.mp found
    rwa [(Prod.mk.inj pair).1] at inside
  · cases found

theorem level_of_lineKind {line title : List Char} {level : Nat}
    (isHeading : LineKind.of line = .heading level title) :
    1 ≤ level ∧ level ≤ 6 := by
  rw [LineKind.of] at isHeading
  split at isHeading
  · cases isHeading
  · split at isHeading
    · cases isHeading
    · split at isHeading
      · rename_i found
        cases isHeading
        exact level_of_heading? found
      · split at isHeading <;> cases isHeading

/-- A heading is of one of the six levels. -/
def Block.Leveled : Block → Prop
  | heading level _ => 1 ≤ level ∧ level ≤ 6
  | _ => True

theorem leveled_of_mem_close {pending : Pending} {block : Block} (member : block ∈ pending.close) :
    block.Leveled := by
  cases pending with
  | nothing => cases member
  | list | paragraph | code =>
      rw [List.mem_singleton.mp member]
      exact trivial

theorem leveled_of_mem_gather {pending : Pending} {lines : List (List Char)} :
    ∀ block ∈ gather pending lines, block.Leveled := by
  fun_induction gather pending lines with
  | case1 => exact fun block => leveled_of_mem_close
  | case3 | case4 | case5 | case7 | case8 | case12 | case13 | case18 =>
      assumption
  | case2 | case9 | case10 | case14 | case15 | case17 =>
      exact List.forall_mem_cons.mpr ⟨trivial, ‹_›⟩
  | case6 =>
      rename_i isHeading inductionHypothesis
      exact List.forall_mem_cons.mpr ⟨level_of_lineKind isHeading, inductionHypothesis⟩
  | case11 | case16 =>
      rename_i isHeading inductionHypothesis
      exact List.forall_mem_cons.mpr
        ⟨trivial, List.forall_mem_cons.mpr ⟨level_of_lineKind isHeading, inductionHypothesis⟩⟩

/-! ## Tags of blocks -/

/-- The elements that blocks are made of, apart from those of inline markup. -/
def blockNames : List String :=
  ["h1", "h2", "h3", "h4", "h5", "h6", "ul", "li", "p", "pre"]

/-- The tags of comments. -/
def commentTags : List Tag :=
  inlineTags ++ blockNames.map (fun name => ⟨name, []⟩) ++
    blockNames.map (fun name => ⟨"/" ++ name, []⟩) ++
    [⟨"div", [("class", "highlight")]⟩, ⟨"/div", []⟩]

theorem marked_inline {text : List Char} (marked : Marked (· ∈ inlineTags) text) :
    Marked (· ∈ commentTags) text :=
  marked.mono fun tag member => by
    rw [commentTags, List.append_assoc, List.append_assoc]
    exact List.mem_append_left _ member

/-- An element around a marked text is marked if its tags are. -/
theorem element_marked {allowed : Tag → Prop} {name content : List Char}
    (opening : Marked allowed ('<' :: name ++ ['>']))
    (closing : Marked allowed ('<' :: '/' :: name ++ ['>']))
    (inside : Marked allowed content) :
    Marked allowed (element name content) := by
  have parts : element name content =
      ('<' :: name ++ ['>']) ++ content ++ ('<' :: '/' :: name ++ ['>']) := by
    simp [element]
  rw [parts]
  exact (opening.append inside).append closing

/-- The tags of a block element are read as such. -/
theorem blockElement_marked {name : String} (member : name ∈ blockNames) {content : List Char}
    (inside : Marked (· ∈ commentTags) content) :
    Marked (· ∈ commentTags) (element name.toList content) := by
  have fixed : ∀ name ∈ blockNames,
      Reads ('<' :: name.toList ++ ['>']) [⟨name, []⟩] ∧
        Reads ('<' :: '/' :: name.toList ++ ['>']) [⟨"/" ++ name, []⟩] ∧
          (⟨name, []⟩ : Tag) ∈ commentTags ∧ (⟨"/" ++ name, []⟩ : Tag) ∈ commentTags := by
    decide +kernel
  obtain ⟨opens, closes, openMember, closeMember⟩ := fixed name member
  exact element_marked ⟨_, opens, List.forall_mem_singleton.mpr openMember⟩
    ⟨_, closes, List.forall_mem_singleton.mpr closeMember⟩ inside

theorem headingName {level : Nat} {offset : Int}
    (leveled : 1 ≤ level ∧ level ≤ 6) (offsetNonneg : 0 ≤ offset) :
    ∃ name ∈ blockNames,
      'h' :: (toString (min ((level : Int) + offset) 6)).toList = name.toList := by
  obtain ⟨shown, shownEq⟩ : ∃ shown : Nat, min ((level : Int) + offset) 6 = shown :=
    ⟨(min ((level : Int) + offset) 6).toNat, by omega⟩
  have bounds : 1 ≤ shown ∧ shown ≤ 6 := by omega
  have names : ∀ shown : Nat, shown < 7 → 1 ≤ shown →
      ∃ name ∈ blockNames, 'h' :: (toString (shown : Int)).toList = name.toList := by
    decide +kernel
  rw [shownEq]
  exact names shown (by omega) bounds.1

theorem renderCode_marked (code : List Char) : Marked (· ∈ commentTags) (renderCode code) := by
  have opening : Marked (· ∈ commentTags) "<div class=\"highlight\"><pre>".toList :=
    ⟨[⟨"div", [("class", "highlight")]⟩, ⟨"pre", []⟩], by decide +kernel, by decide +kernel⟩
  have closing : Marked (· ∈ commentTags) "\n</pre></div>".toList :=
    ⟨[⟨"/pre", []⟩, ⟨"/div", []⟩], by decide +kernel, by decide +kernel⟩
  have text : Marked (· ∈ commentTags) (codeText code) :=
    .of_not_isAngle not_isAngle_of_mem_escapeCode
  exact (opening.append text).append closing

theorem render_marked {block : Block} {offset : Int}
    (leveled : block.Leveled) (offsetNonneg : 0 ≤ offset) :
    Marked (· ∈ commentTags) (block.render offset) := by
  have inline (text : List Char) : Marked (· ∈ commentTags) (renderInline text) :=
    marked_inline (renderInline_marked text)
  cases block with
  | heading level title =>
      obtain ⟨name, member, same⟩ := headingName leveled offsetNonneg
      rw [Block.render, same]
      exact blockElement_marked member (inline title)
  | list items =>
      refine blockElement_marked (by decide) ?_
      rw [List.flatMap_def]
      apply Marked.flatten
      intro piece member
      obtain ⟨item, _, rfl⟩ := List.mem_map.mp member
      exact blockElement_marked (by decide) (inline item)
  | paragraph lines => exact blockElement_marked (by decide) (inline _)
  | code language lines => exact renderCode_marked _

/-- A comment has only the tags of comments, whatever it says. -/
theorem renderComment_marked {offset : Int} (offsetNonneg : 0 ≤ offset) (text : List Char) :
    Marked (· ∈ commentTags) (renderComment offset text) := by
  have line : Marked (· ∈ commentTags) ['\n'] :=
    .of_not_isAngle (List.forall_mem_singleton.mpr (by decide))
  refine Marked.intercalate line ?_
  intro piece member
  obtain ⟨block, blockMember, rfl⟩ := List.mem_map.mp member
  exact render_marked (leveled_of_mem_gather block blockMember) offsetNonneg

end ApiDocs.Markup
