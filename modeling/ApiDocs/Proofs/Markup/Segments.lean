import ApiDocs.Proofs.Markup.LineForms
import ApiDocs.Proofs.Text.Joining

/-!
# Comments in segments

The lines of a comment fall into segments that follow each other without a gap: blank lines,
headings, lists, paragraphs and code, where lists and paragraphs go on for as long as they can.
There is one way only to cut a comment like that, and each segment but a blank line is one block.
-/

namespace ApiDocs.Markup

open ApiDocs.Text

/-! ## Segments -/

/-- Three backticks and nothing else end code. -/
def EndsCode (line : List Char) : Prop := trim line = ['`', '`', '`']

instance (line : List Char) : Decidable (EndsCode line) := inferInstanceAs (Decidable (_ = _))

/-- A line with a bullet, and the lines that go on with its text. -/
@[ext]
structure ListItem where
  bullet : List Char
  opening : List Char
  isBullet : IsBullet (trim bullet) opening
  more : List (List Char)
  arePlain : ∀ line ∈ more, IsPlain (trim line)

namespace ListItem

def source (item : ListItem) : List (List Char) := item.bullet :: item.more

/-- The text behind the bullet and that of the lines that go on with it. -/
def text (item : ListItem) : List Char := join [' '] (item.opening :: item.more.map trim)

end ListItem

/-- Lines that belong together.  Code begins with a fence and goes on, whatever its lines are, up
to its end, which may be missing. -/
inductive Segment where
  | blank (line : List Char) (isBlank : trim line = [])
  | heading (line : List Char) (level : Nat) (title : List Char)
      (isHeading : IsHeading (trim line) level title)
  | list (first : ListItem) (more : List ListItem)
  | paragraph (first : List Char) (more : List (List Char))
      (arePlain : ∀ line ∈ first :: more, IsPlain (trim line))
  | code (fence language : List Char) (isFence : IsFence (trim fence) language)
      (body : List (List Char)) (inside : ∀ line ∈ body, ¬ EndsCode line)
      (ending : Option { line // EndsCode line })

namespace Segment

/-- The lines of a segment as they are written. -/
def source : Segment → List (List Char)
  | blank line _ => [line]
  | heading line _ _ _ => [line]
  | list first more => (first :: more).flatMap ListItem.source
  | paragraph first more _ => first :: more
  | code fence _ _ body _ ending => fence :: (body ++ ending.toList.map Subtype.val)

/-- The block that a segment is. -/
def block? : Segment → Option Block
  | blank _ _ => none
  | heading _ level title _ => some (.heading level title)
  | list first more => some (.list ((first :: more).map ListItem.text))
  | paragraph first more _ => some (.paragraph ((first :: more).map trim))
  | code _ language _ body _ _ => some (.code language body)

/-- A segment as markup: nothing for a blank line, one element for any other. -/
def markup? (offset : Int) : Segment → Option (List Char)
  | blank _ _ => none
  | heading _ level title _ =>
    let name := 'h' :: (toString (min (level + offset) 6)).toList
    some (['<'] ++ name ++ ['>'] ++ renderInline title ++ "</".toList ++ name ++ ['>'])
  | list first more =>
    some ("<ul>".toList ++ ((first :: more).flatMap fun item =>
      "<li>".toList ++ renderInline item.text ++ "</li>".toList) ++ "</ul>".toList)
  | paragraph first more _ =>
    some ("<p>".toList ++ renderInline (join [' '] ((first :: more).map trim)) ++ "</p>".toList)
  | code _ _ _ body _ _ => some (renderCode (join ['\n'] body))

/-- A line that no list goes on with. -/
def EndsList (line : List Char) : Prop :=
  line = [] ∨ (∃ language, IsFence line language) ∨ ∃ level title, IsHeading line level title

/-- The segment could not go on with the lines that follow it. -/
def EndsBefore (rest : List (List Char)) : Segment → Prop
  | list _ _ => ∀ line ∈ rest.head?, EndsList (trim line)
  | paragraph _ _ _ => ∀ line ∈ rest.head?, ¬ IsPlain (trim line)
  | code _ _ _ _ _ none => rest = []
  | _ => True

end Segment

/-- Lines cut into segments. -/
inductive Segmented : List Segment → List (List Char) → Prop where
  | nil : Segmented [] []
  | cons {segment : Segment} {segments : List Segment} {rest : List (List Char)} :
      segment.EndsBefore rest → Segmented segments rest →
      Segmented (segment :: segments) (segment.source ++ rest)

/-! ## Blocks of segments -/

section Gathering

variable {line : List Char} {rest : List (List Char)}

theorem kind_blank (isBlank : trim line = []) : LineKind.of (trim line) = .blank := by
  rw [isBlank]
  rfl

theorem kind_plain (isPlain : IsPlain (trim line)) : LineKind.of (trim line) = .plain :=
  of_eq_iff.mpr (.plain isPlain)

theorem kind_bullet {item : List Char} (isBullet : IsBullet (trim line) item) :
    LineKind.of (trim line) = .bullet item :=
  of_eq_iff.mpr (.bullet isBullet)

theorem gather_code {language : List Char} {body : List (List Char)}
    (inside : ∀ line ∈ body, ¬ EndsCode line) (before rest : List (List Char)) :
    gather (.code language before) (body ++ rest) =
      gather (.code language (before ++ body)) rest := by
  induction body generalizing before with
  | nil => rw [List.nil_append, List.append_nil]
  | cons line body inductionHypothesis =>
      obtain ⟨lineInside, bodyInside⟩ := List.forall_mem_cons.mp inside
      have further : gather (.code language before) (line :: (body ++ rest)) =
          gather (.code language (before ++ [line])) (body ++ rest) := by
        rw [gather]
        exact if_neg lineInside
      rw [List.cons_append, further, inductionHypothesis bodyInside, List.append_assoc]
      rfl

theorem gather_paragraph {run : List (List Char)} (arePlain : ∀ line ∈ run, IsPlain (trim line))
    (before rest : List (List Char)) :
    gather (.paragraph before) (run ++ rest) =
      gather (.paragraph (before ++ run.map trim)) rest := by
  induction run generalizing before with
  | nil => rw [List.nil_append, List.map_nil, List.append_nil]
  | cons line run inductionHypothesis =>
      obtain ⟨linePlain, runPlain⟩ := List.forall_mem_cons.mp arePlain
      have further : gather (.paragraph before) (line :: (run ++ rest)) =
          gather (.paragraph (before ++ [trim line])) (run ++ rest) := by
        simp only [gather, kind_plain linePlain]
      rw [List.cons_append, further, inductionHypothesis runPlain, List.append_assoc]
      rfl

/-- The last item of a list goes on with a line. -/
theorem continueItem_append (line item : List Char) (items : List (List Char)) :
    continueItem line (items ++ [item]) = items ++ [item ++ ' ' :: line] := by
  induction items with
  | nil => rfl
  | cons first others inductionHypothesis =>
      have nonempty : others ++ [item] ≠ [] :=
        List.append_ne_nil_of_right_ne_nil others (List.cons_ne_nil item [])
      obtain ⟨next, more, split⟩ := List.exists_cons_of_ne_nil nonempty
      rw [List.cons_append, List.cons_append, split, continueItem, ← split, inductionHypothesis]
      rintro single
      cases single

theorem join_continued (item line : List Char) (more : List (List Char)) :
    join [' '] ((item ++ ' ' :: line) :: more) = join [' '] (item :: line :: more) := by
  by_cases single : more = []
  · rw [single, join_cons_of_ne_nil (List.cons_ne_nil _ _), join_singleton, join_singleton]
    rfl
  · rw [join_cons_of_ne_nil single, join_cons_of_ne_nil (List.cons_ne_nil _ _),
      join_cons_of_ne_nil single, List.append_assoc]
    rfl

/-- Lines that are plain text go on with the last item of a list. -/
theorem gather_item {run : List (List Char)} (arePlain : ∀ line ∈ run, IsPlain (trim line))
    (items : List (List Char)) (opening : List Char) (rest : List (List Char)) :
    gather (.list (items ++ [opening])) (run ++ rest) =
      gather (.list (items ++ [join [' '] (opening :: run.map trim)])) rest := by
  induction run generalizing opening with
  | nil => rw [List.nil_append, List.map_nil, join_singleton]
  | cons line run inductionHypothesis =>
      obtain ⟨linePlain, runPlain⟩ := List.forall_mem_cons.mp arePlain
      have further : gather (.list (items ++ [opening])) (line :: (run ++ rest)) =
          gather (.list (items ++ [opening ++ ' ' :: trim line])) (run ++ rest) := by
        simp only [gather, kind_plain linePlain, continueItem_append]
      rw [List.cons_append, further, inductionHypothesis runPlain, join_continued]
      rfl

theorem gather_items (items : List ListItem) (before rest : List (List Char)) :
    gather (.list before) (items.flatMap ListItem.source ++ rest) =
      gather (.list (before ++ items.map ListItem.text)) rest := by
  induction items generalizing before with
  | nil => rw [List.flatMap_nil, List.nil_append, List.map_nil, List.append_nil]
  | cons item items inductionHypothesis =>
      have opens (further : List (List Char)) : gather (.list before) (item.bullet :: further) =
          gather (.list (before ++ [item.opening])) further := by
        simp only [gather, kind_bullet item.isBullet]
      rw [List.flatMap_cons, List.append_assoc, ListItem.source, List.cons_append, opens,
        gather_item item.arePlain, ← ListItem.text, inductionHypothesis, List.append_assoc]
      rfl

theorem gather_list_ends (ends : ∀ line ∈ rest.head?, Segment.EndsList (trim line))
    (items : List (List Char)) :
    gather (.list items) rest = .list items :: gather .nothing rest := by
  cases rest with
  | nil => rfl
  | cons line rest =>
      rcases ends line rfl with empty | ⟨language, isFence⟩ | ⟨level, title, isHeading⟩
      · simp only [gather, kind_blank empty]
      · simp only [gather, of_eq_iff.mpr (.fence isFence)]
      · simp only [gather, of_eq_iff.mpr (.heading isHeading)]

theorem gather_paragraph_ends (ends : ∀ line ∈ rest.head?, ¬ IsPlain (trim line))
    (lines : List (List Char)) :
    gather (.paragraph lines) rest = .paragraph lines :: gather .nothing rest := by
  cases rest with
  | nil => rfl
  | cons line rest =>
      cases kind : LineKind.of (trim line) with
      | plain => exact absurd (of_eq_plain_iff.mp kind) (ends line rfl)
      | blank | fence | heading | bullet => simp only [gather, kind]

end Gathering

/-- A segment in front of lines that it could not go on with is gathered as its block. -/
theorem gather_segment (segment : Segment) {rest : List (List Char)}
    (ends : segment.EndsBefore rest) :
    gather .nothing (segment.source ++ rest) = segment.block?.toList ++ gather .nothing rest := by
  cases segment with
  | blank line isBlank =>
      simp only [Segment.source, List.singleton_append, gather, kind_blank isBlank]
      rfl
  | heading line level title isHeading =>
      simp only [Segment.source, List.singleton_append, gather, of_eq_iff.mpr (.heading isHeading)]
      rfl
  | list first more =>
      have opens (further : List (List Char)) : gather .nothing (first.bullet :: further) =
          gather (.list []) (first.bullet :: further) := by
        simp only [gather, kind_bullet first.isBullet, List.nil_append]
      have items := gather_items (first :: more) [] rest
      rw [gather_list_ends ends] at items
      rw [Segment.source]
      rw [List.flatMap_cons, ListItem.source, List.cons_append, List.cons_append] at items ⊢
      rw [opens, items]
      rfl
  | paragraph first more arePlain =>
      obtain ⟨firstPlain, morePlain⟩ := List.forall_mem_cons.mp arePlain
      have opens : gather .nothing (first :: (more ++ rest)) =
          gather (.paragraph [trim first]) (more ++ rest) := by
        simp only [gather, kind_plain firstPlain]
      rw [Segment.source, List.cons_append, opens, gather_paragraph morePlain,
        gather_paragraph_ends ends]
      rfl
  | code fence language isFence body inside ending =>
      have opens (further : List (List Char)) : gather .nothing (fence :: further) =
          gather (.code language []) further := by
        simp only [gather, of_eq_iff.mpr (.fence isFence)]
      rw [Segment.source, List.cons_append, opens, List.append_assoc, gather_code inside]
      cases ending with
      | none =>
          have nothing : rest = [] := ends
          rw [nothing]
          rfl
      | some closing =>
          have closes : gather (.code language ([] ++ body)) (closing.val :: rest) =
              .code language body :: gather .nothing rest := by
            rw [gather, List.nil_append]
            exact if_pos closing.property
          exact closes

theorem Segmented.gather_eq {segments : List Segment} {lines : List (List Char)}
    (segmented : Segmented segments lines) :
    gather .nothing lines = segments.filterMap Segment.block? := by
  induction segmented with
  | nil => rfl
  | cons ends _ inductionHypothesis =>
      rw [gather_segment _ ends, inductionHypothesis, List.filterMap_cons]
      split
      · rename_i none
        rw [none]
        rfl
      · rename_i block some
        rw [some]
        rfl

/-- The block of a segment is rendered as its markup. -/
theorem render_block? (offset : Int) (segment : Segment) :
    segment.block?.map (Block.render offset) = segment.markup? offset := by
  cases segment with
  | blank line isBlank => rfl
  | heading line level title isHeading =>
      simp [Segment.block?, Segment.markup?, Block.render, element]
  | list first more =>
      simp [Segment.block?, Segment.markup?, Block.render, element, List.flatMap_map]
  | paragraph first more arePlain =>
      simp [Segment.block?, Segment.markup?, Block.render, element]
  | code fence language isFence body inside ending => rfl

/-! ## Cutting lines into segments -/

/-- Lines are cut where the first one stands that is not of a sort. -/
theorem exists_run (sort : List Char → Prop) (lines : List (List Char)) :
    ∃ run rest, lines = run ++ rest ∧ (∀ line ∈ run, sort line) ∧
      ∀ line ∈ rest.head?, ¬ sort line := by
  induction lines with
  | nil => exact ⟨[], [], rfl, List.forall_mem_nil _, fun line member => nomatch member⟩
  | cons line lines inductionHypothesis =>
      by_cases isSort : sort line
      · obtain ⟨run, rest, rfl, areSort, ends⟩ := inductionHypothesis
        exact ⟨line :: run, rest, rfl, List.forall_mem_cons.mpr ⟨isSort, areSort⟩, ends⟩
      · exact ⟨[], line :: lines, rfl, List.forall_mem_nil _,
          fun first isFirst => Option.some.inj isFirst ▸ isSort⟩

/-- The lines behind a bullet: those that go on with its text, further items, and lines that the
list does not go on with. -/
theorem exists_items (lines : List (List Char)) :
    ∃ (more : List (List Char)) (items : List ListItem) (rest : List (List Char)),
      lines = more ++ (items.flatMap ListItem.source ++ rest) ∧
        (∀ line ∈ more, IsPlain (trim line)) ∧
          ∀ line ∈ rest.head?, Segment.EndsList (trim line) := by
  induction lines with
  | nil => exact ⟨[], [], [], rfl, List.forall_mem_nil _, fun line member => nomatch member⟩
  | cons line lines inductionHypothesis =>
      have stop (ends : Segment.EndsList (trim line)) :
          ∀ first ∈ (line :: lines).head?, Segment.EndsList (trim first) :=
        fun first isFirst => Option.some.inj isFirst ▸ ends
      obtain ⟨more, items, rest, split, arePlain, ends⟩ := inductionHypothesis
      rcases form_cases (trim line) with empty | isFence | isHeading | ⟨opening, isBullet⟩ | isPlain
      · exact ⟨[], [], _, rfl, List.forall_mem_nil _, stop (Or.inl empty)⟩
      · exact ⟨[], [], _, rfl, List.forall_mem_nil _, stop (Or.inr (Or.inl isFence))⟩
      · exact ⟨[], [], _, rfl, List.forall_mem_nil _, stop (Or.inr (Or.inr isHeading))⟩
      · refine ⟨[], ⟨line, opening, isBullet, more, arePlain⟩ :: items, rest, ?_,
          List.forall_mem_nil _, ends⟩
        rw [split, List.flatMap_cons, List.append_assoc]
        rfl
      · exact ⟨line :: more, items, rest, congrArg _ split,
          List.forall_mem_cons.mpr ⟨isPlain, arePlain⟩, ends⟩

/-- Some segment begins with the first of some lines. -/
theorem exists_segment (line : List Char) (lines : List (List Char)) :
    ∃ (segment : Segment) (rest : List (List Char)),
      line :: lines = segment.source ++ rest ∧ segment.EndsBefore rest := by
  rcases form_cases (trim line) with
    empty | ⟨language, isFence⟩ | ⟨level, title, isHeading⟩ | ⟨opening, isBullet⟩ | isPlain
  · exact ⟨.blank line empty, lines, rfl, trivial⟩
  · obtain ⟨body, rest, rfl, inside, ends⟩ := exists_run (fun line => ¬ EndsCode line) lines
    cases rest with
    | nil =>
        refine ⟨.code line language isFence body inside none, [], ?_, rfl⟩
        simp [Segment.source]
    | cons closing rest =>
        have isEnd : EndsCode closing := Decidable.not_not.mp (ends closing rfl)
        refine ⟨.code line language isFence body inside (some ⟨closing, isEnd⟩), rest, ?_, trivial⟩
        simp [Segment.source]
  · exact ⟨.heading line level title isHeading, lines, rfl, trivial⟩
  · obtain ⟨more, items, rest, rfl, arePlain, ends⟩ := exists_items lines
    refine ⟨.list ⟨line, opening, isBullet, more, arePlain⟩ items, rest, ?_, ends⟩
    rw [Segment.source, List.flatMap_cons, List.append_assoc]
    rfl
  · obtain ⟨run, rest, rfl, arePlain, ends⟩ := exists_run (fun line => IsPlain (trim line)) lines
    exact ⟨.paragraph line run (List.forall_mem_cons.mpr ⟨isPlain, arePlain⟩), rest, rfl, ends⟩

theorem Segment.source_ne_nil (segment : Segment) : segment.source ≠ [] := by
  cases segment <;> exact List.cons_ne_nil _ _

theorem exists_segmented (lines : List (List Char)) : ∃ segments, Segmented segments lines := by
  induction length : lines.length using Nat.strong_induction_on generalizing lines with
  | _ bound inductionHypothesis =>
      cases lines with
      | nil => exact ⟨[], .nil⟩
      | cons line lines =>
          obtain ⟨segment, rest, split, ends⟩ := exists_segment line lines
          have shorter : rest.length < bound := by
            have nonempty := List.length_pos_of_ne_nil segment.source_ne_nil
            rw [← length, split, List.length_append]
            omega
          obtain ⟨segments, segmented⟩ := inductionHypothesis rest.length shorter rest rfl
          rw [split]
          exact ⟨segment :: segments, .cons ends segmented⟩

/-! ## There is one way only -/

/-- A run of lines of a sort ends at the first that is not. -/
theorem run_unique {sort : List Char → Prop} {run other rest further : List (List Char)}
    (areSort : ∀ line ∈ run, sort line) (othersAreSort : ∀ line ∈ other, sort line)
    (ends : ∀ line ∈ rest.head?, ¬ sort line) (otherEnds : ∀ line ∈ further.head?, ¬ sort line)
    (same : run ++ rest = other ++ further) :
    run = other ∧ rest = further := by
  induction run generalizing other with
  | nil =>
      cases other with
      | nil => exact ⟨rfl, same⟩
      | cons line other =>
          have begins : rest.head? = some line := by rw [← List.nil_append rest, same]; rfl
          exact absurd (othersAreSort line List.mem_cons_self) (ends line begins)
  | cons line run inductionHypothesis =>
      obtain ⟨lineSort, runSort⟩ := List.forall_mem_cons.mp areSort
      cases other with
      | nil =>
          have begins : further.head? = some line := by rw [← List.nil_append further, ← same]; rfl
          exact absurd lineSort (otherEnds line begins)
      | cons first other =>
          obtain ⟨rfl, tails⟩ := List.cons.inj same
          obtain ⟨rfl, restSame⟩ :=
            inductionHypothesis runSort (List.forall_mem_cons.mp othersAreSort).2 tails
          exact ⟨rfl, restSame⟩

theorem Segment.EndsList.kind_ne {line : List Char} (ends : Segment.EndsList line) :
    LineKind.of line ≠ .plain ∧ ∀ item, LineKind.of line ≠ .bullet item := by
  rcases ends with rfl | ⟨language, isFence⟩ | ⟨level, title, isHeading⟩
  · exact ⟨LineKind.noConfusion, fun item => LineKind.noConfusion⟩
  · rw [of_eq_iff.mpr (.fence isFence)]
    exact ⟨LineKind.noConfusion, fun item => LineKind.noConfusion⟩
  · rw [of_eq_iff.mpr (.heading isHeading)]
    exact ⟨LineKind.noConfusion, fun item => LineKind.noConfusion⟩

/-- No item goes on with the items behind it, nor with what follows the list. -/
theorem not_isPlain_of_items {items : List ListItem} {rest : List (List Char)}
    (ends : ∀ line ∈ rest.head?, Segment.EndsList (trim line)) :
    ∀ line ∈ (items.flatMap ListItem.source ++ rest).head?, ¬ IsPlain (trim line) := by
  intro line isFirst isPlain
  cases items with
  | nil => exact (ends line isFirst).kind_ne.1 (kind_plain isPlain)
  | cons item items =>
      obtain rfl : item.bullet = line := Option.some.inj isFirst
      have kinds := (kind_bullet item.isBullet).symm.trans (kind_plain isPlain)
      cases kinds

theorem items_unique {items others : List ListItem} {rest further : List (List Char)}
    (ends : ∀ line ∈ rest.head?, Segment.EndsList (trim line))
    (otherEnds : ∀ line ∈ further.head?, Segment.EndsList (trim line))
    (same : items.flatMap ListItem.source ++ rest = others.flatMap ListItem.source ++ further) :
    items = others ∧ rest = further := by
  induction items generalizing others with
  | nil =>
      cases others with
      | nil => exact ⟨rfl, same⟩
      | cons other others =>
          have begins : rest.head? = some other.bullet := by
            rw [List.flatMap_nil, List.nil_append] at same
            rw [same]
            rfl
          exact absurd (kind_bullet other.isBullet) ((ends _ begins).kind_ne.2 _)
  | cons item items inductionHypothesis =>
      cases others with
      | nil =>
          have begins : further.head? = some item.bullet := by
            rw [List.flatMap_nil, List.nil_append] at same
            rw [← same]
            rfl
          exact absurd (kind_bullet item.isBullet) ((otherEnds _ begins).kind_ne.2 _)
      | cons other others =>
          rw [List.flatMap_cons, List.flatMap_cons, List.append_assoc, List.append_assoc] at same
          obtain ⟨sameBullet, tails⟩ := List.cons.inj same
          obtain ⟨sameMore, behind⟩ := run_unique item.arePlain other.arePlain
            (not_isPlain_of_items ends) (not_isPlain_of_items otherEnds) tails
          obtain ⟨rfl, sameRest⟩ := inductionHypothesis behind
          have kinds := kind_bullet item.isBullet
          rw [sameBullet, kind_bullet other.isBullet] at kinds
          have sameItem : item = other :=
            ListItem.ext sameBullet (LineKind.bullet.inj kinds).symm sameMore
          exact ⟨congrArg (· :: items) sameItem, sameRest⟩

/-- The kind of the first line of a segment. -/
def Segment.kind : Segment → LineKind
  | blank _ _ => .blank
  | heading _ level title _ => .heading level title
  | list first _ => .bullet first.opening
  | paragraph _ _ _ => .plain
  | code _ language _ _ _ _ => .fence language

theorem Segment.exists_first (segment : Segment) :
    ∃ line lines, segment.source = line :: lines ∧ LineKind.of (trim line) = segment.kind := by
  cases segment with
  | blank line isBlank => exact ⟨line, [], rfl, by rw [isBlank]; rfl⟩
  | heading line level title isHeading => exact ⟨line, [], rfl, of_eq_iff.mpr (.heading isHeading)⟩
  | list first more => exact ⟨first.bullet, _, rfl, kind_bullet first.isBullet⟩
  | paragraph first more arePlain =>
      exact ⟨first, more, rfl, kind_plain (arePlain first List.mem_cons_self)⟩
  | code fence language isFence body inside ending =>
      exact ⟨fence, _, rfl, of_eq_iff.mpr (.fence isFence)⟩

/-- What follows the body of code is its end, or nothing. -/
theorem endsCode_of_head {ending : Option { line // EndsCode line }} {rest : List (List Char)}
    (nothing : ending = none → rest = []) :
    ∀ line ∈ (ending.toList.map Subtype.val ++ rest).head?, ¬ ¬ EndsCode line := by
  intro line isFirst
  cases ending with
  | none =>
      rw [nothing rfl] at isFirst
      cases isFirst
  | some closing =>
      obtain rfl : closing.val = line := Option.some.inj isFirst
      exact not_not_intro closing.property

theorem ending_unique {ending other : Option { line // EndsCode line }}
    {rest further : List (List Char)}
    (nothing : ending = none → rest = []) (otherNothing : other = none → further = [])
    (same : ending.toList.map Subtype.val ++ rest = other.toList.map Subtype.val ++ further) :
    ending = other ∧ rest = further := by
  cases ending with
  | none =>
      cases other with
      | none => exact ⟨rfl, same⟩
      | some closing =>
          rw [nothing rfl] at same
          cases same
  | some closing =>
      cases other with
      | none =>
          rw [otherNothing rfl] at same
          cases same
      | some otherClosing =>
          obtain ⟨sameLine, sameRest⟩ := List.cons.inj same
          exact ⟨congrArg some (Subtype.ext sameLine), sameRest⟩

theorem Segment.EndsBefore.nothing
    {fence language : List Char} {isFence : IsFence (trim fence) language}
    {body : List (List Char)} {inside : ∀ line ∈ body, ¬ EndsCode line}
    {ending : Option { line // EndsCode line }} {rest : List (List Char)}
    (ends : (Segment.code fence language isFence body inside ending).EndsBefore rest) :
    ending = none → rest = [] := by
  rintro rfl
  exact ends

/-- The first segment of lines is one only. -/
theorem Segment.unique {segment other : Segment} {rest further : List (List Char)}
    (ends : segment.EndsBefore rest) (otherEnds : other.EndsBefore further)
    (same : segment.source ++ rest = other.source ++ further) :
    segment = other ∧ rest = further := by
  have sameKind : segment.kind = other.kind := by
    obtain ⟨line, lines, source, kind⟩ := segment.exists_first
    obtain ⟨otherLine, otherLines, otherSource, otherKind⟩ := other.exists_first
    rw [source, otherSource] at same
    rw [← kind, ← otherKind, (List.cons.inj same).1]
  cases segment with
  | blank line isBlank =>
      cases other with
      | blank otherLine otherBlank =>
          obtain ⟨rfl, rfl⟩ := List.cons.inj same
          exact ⟨rfl, rfl⟩
      | heading | list | paragraph | code => cases sameKind
  | heading line level title isHeading =>
      cases other with
      | heading otherLine otherLevel otherTitle otherHeading =>
          obtain ⟨rfl, rfl⟩ := List.cons.inj same
          cases sameKind
          exact ⟨rfl, rfl⟩
      | blank | list | paragraph | code => cases sameKind
  | list first more =>
      cases other with
      | list otherFirst otherMore =>
          obtain ⟨sameItems, sameRest⟩ := items_unique ends otherEnds same
          cases sameItems
          exact ⟨rfl, sameRest⟩
      | blank | heading | paragraph | code => cases sameKind
  | paragraph first more arePlain =>
      cases other with
      | paragraph otherFirst otherMore otherPlain =>
          obtain ⟨sameLines, sameRest⟩ := run_unique arePlain otherPlain ends otherEnds same
          cases sameLines
          exact ⟨rfl, sameRest⟩
      | blank | heading | list | code => cases sameKind
  | code fence language isFence body inside ending =>
      cases other with
      | code otherFence otherLanguage otherIsFence otherBody otherInside otherEnding =>
          cases sameKind
          rw [Segment.source, Segment.source, List.cons_append, List.cons_append,
            List.append_assoc, List.append_assoc] at same
          obtain ⟨rfl, tails⟩ := List.cons.inj same
          obtain ⟨rfl, behind⟩ := run_unique inside otherInside
            (endsCode_of_head ends.nothing) (endsCode_of_head otherEnds.nothing) tails
          obtain ⟨rfl, sameRest⟩ := ending_unique ends.nothing otherEnds.nothing behind
          exact ⟨rfl, sameRest⟩
      | blank | heading | list | paragraph => cases sameKind

theorem Segmented.unique {segments others : List Segment} {lines : List (List Char)}
    (segmented : Segmented segments lines) (othersSegmented : Segmented others lines) :
    segments = others := by
  induction segmented generalizing others with
  | nil =>
      generalize empty : ([] : List (List Char)) = lines at othersSegmented
      cases othersSegmented with
      | nil => rfl
      | @cons other _ _ _ _ =>
          exact absurd (List.append_eq_nil_iff.mp empty.symm).1 other.source_ne_nil
  | @cons segment segments rest ends _ inductionHypothesis =>
      generalize whole : segment.source ++ rest = lines at othersSegmented
      cases othersSegmented with
      | nil => exact absurd (List.append_eq_nil_iff.mp whole).1 segment.source_ne_nil
      | cons otherEnds othersSegmented =>
          obtain ⟨rfl, rfl⟩ := Segment.unique ends otherEnds whole
          rw [inductionHypothesis othersSegmented]

theorem Segmented.source_eq {segments : List Segment} {lines : List (List Char)}
    (segmented : Segmented segments lines) :
    segments.flatMap Segment.source = lines := by
  induction segmented with
  | nil => rfl
  | cons _ _ inductionHypothesis => rw [List.flatMap_cons, inductionHypothesis]

/-! ## Comments -/

theorem Segmented.blocks_eq {segments : List Segment} {text : List Char}
    (segmented : Segmented segments (lines text)) :
    blocks text = segments.filterMap Segment.block? :=
  segmented.gather_eq

/-- The lines of a comment are cut into segments in one way, which loses no line and repeats none,
and the comment is rendered segment by segment, with a line feed between the elements. -/
theorem renderComment_segments (offset : Int) (text : List Char) :
    ∃! segments, Segmented segments (lines text) ∧
      segments.flatMap Segment.source = lines text ∧
      renderComment offset text = join ['\n'] (segments.filterMap (Segment.markup? offset)) := by
  obtain ⟨segments, segmented⟩ := exists_segmented (lines text)
  have rendered : renderComment offset text =
      join ['\n'] (segments.filterMap (Segment.markup? offset)) := by
    rw [renderComment, segmented.blocks_eq, List.map_filterMap]
    simp only [render_block?]
  refine ⟨segments, ⟨segmented, segmented.source_eq, rendered⟩, ?_⟩
  rintro others ⟨othersSegmented, _⟩
  exact othersSegmented.unique segmented

end ApiDocs.Markup
