import ApiDocs.Markup.Inline
import ApiDocs.Proofs.Markup.Tags

/-!
# Spans of inline markup

A span that is found is a part of the text, between its delimiters.  Marking code spans and then
bold spans leaves a text whose only tags are those of the two marks: the delimiters of bold spans
never stand inside the tags around code.
-/

namespace ApiDocs.Markup

open ApiDocs.Text

/-! ## What is found -/

section Found

variable {mark : Char} {text body rest : List Char}

theorem upToTwo_eq (found : upToTwo mark text = some (body, rest)) :
    text = body ++ mark :: mark :: rest := by
  induction text generalizing body rest with
  | nil => simp [upToTwo] at found
  | cons first tail inductionHypothesis =>
      cases tail with
      | nil => simp [upToTwo] at found
      | cons second more =>
          unfold upToTwo at found
          split at found
          · rename_i marks
            cases found
            rw [marks.1, marks.2, List.nil_append]
          · split at found
            · cases found
            · obtain ⟨⟨inner, remainder⟩, innerFound, pair⟩ := Option.map_eq_some_iff.mp found
              cases pair
              exact congrArg (first :: ·) (inductionHypothesis innerFound)

theorem someUpToTwo_eq (found : someUpToTwo mark text = some (body, rest)) :
    text = body ++ mark :: mark :: rest := by
  cases text with
  | nil => simp [someUpToTwo] at found
  | cons head tail =>
      rw [someUpToTwo] at found
      split at found
      · cases found
      · obtain ⟨⟨inner, remainder⟩, innerFound, pair⟩ := Option.map_eq_some_iff.mp found
        cases pair
        exact congrArg (head :: ·) (upToTwo_eq innerFound)

theorem someUpToOne_eq (found : someUpToOne mark text = some (body, rest)) :
    text = body ++ mark :: rest := by
  unfold someUpToOne at found
  split at found
  · cases found
  · rename_i stop remainder dropped
    simp only at found
    split at found
    · cases found
    · cases found
      have isMark : stop = mark := by
        have nonempty : text.dropWhile (· != mark) ≠ [] := by
          rw [dropped]
          exact List.cons_ne_nil stop rest
        have stops := List.head_dropWhile_not (· != mark) nonempty
        simpa [dropped] using stops
      rw [← isMark, ← dropped, isMark]
      exact List.takeWhile_append_dropWhile.symm

/-- A code span stands between one or two backticks on either side. -/
theorem codeSpan?_eq (found : codeSpan? text = some (body, rest)) :
    text = ['`', '`'] ++ body ++ ['`', '`'] ++ rest ∨ text = ['`'] ++ body ++ ['`'] ++ rest := by
  unfold codeSpan? at found
  split at found
  · left
    rw [someUpToTwo_eq found]
    simp
  · right
    rw [someUpToOne_eq found]
    simp
  · cases found

theorem boldSpan?_eq (found : boldSpan? text = some (body, rest)) :
    text = ['*', '*'] ++ body ++ ['*', '*'] ++ rest := by
  unfold boldSpan? at found
  split at found
  · rw [someUpToTwo_eq found]
    simp
  · cases found

theorem codeSpan?_of_head?_ne (isElse : text.head? ≠ some '`') : codeSpan? text = none := by
  unfold codeSpan?
  split
  · exact absurd rfl isElse
  · exact absurd rfl isElse
  · rfl

theorem boldSpan?_of_head?_ne (isElse : text.head? ≠ some '*') : boldSpan? text = none := by
  unfold boldSpan?
  split
  · exact absurd rfl isElse
  · rfl

end Found

/-! ## Code spans -/

/-- A text whose only tags are those around code spans. -/
inductive Coded : List Char → Prop where
  | nil : Coded []
  | character {head : Char} {tail : List Char} (plain : ¬ IsAngle head) (rest : Coded tail) :
      Coded (head :: tail)
  | opens {tail : List Char} (rest : Coded tail) : Coded ("<code>".toList ++ tail)
  | closes {tail : List Char} (rest : Coded tail) : Coded ("</code>".toList ++ tail)

namespace Coded

variable {text first second : List Char}

theorem of_not_isAngle (plain : ∀ character ∈ text, ¬ IsAngle character) : Coded text := by
  induction text with
  | nil => exact nil
  | cons head tail inductionHypothesis =>
      exact character (plain head List.mem_cons_self)
        (inductionHypothesis fun other member => plain other (List.mem_cons_of_mem head member))

theorem append (firstCoded : Coded first) (secondCoded : Coded second) :
    Coded (first ++ second) := by
  induction firstCoded with
  | nil => exact secondCoded
  | character plain _ inductionHypothesis => exact character plain inductionHypothesis
  | opens _ inductionHypothesis =>
      rw [List.append_assoc]
      exact opens inductionHypothesis
  | closes _ inductionHypothesis =>
      rw [List.append_assoc]
      exact closes inductionHypothesis

/-- A tag that does not hold an asterisk lies before it or behind it. -/
theorem split_tag
    {tag tail : List Char} (noAsterisk : '*' ∉ tag)
    (together : tag ++ tail = first ++ '*' :: second) :
    ∃ middle, first = tag ++ middle ∧ tail = middle ++ '*' :: second := by
  rcases List.append_eq_append_iff.mp together with ⟨middle, split, rest⟩ | ⟨middle, split, rest⟩
  · exact ⟨middle, split, rest⟩
  · cases middle with
    | nil => exact ⟨[], by simpa using split.symm, by simpa using rest.symm⟩
    | cons head others =>
        obtain ⟨rfl, _⟩ := List.cons.inj rest
        exact absurd (split ▸ List.mem_append_right first List.mem_cons_self) noAsterisk

/-- No asterisk stands inside a tag, so a text can be cut at each. -/
theorem cut (coded : Coded (first ++ '*' :: second)) : Coded first ∧ Coded second := by
  generalize whole : first ++ '*' :: second = text at coded
  induction coded generalizing first with
  | nil => exact absurd whole (by simp)
  | character plain rest inductionHypothesis =>
      cases first with
      | nil =>
          obtain ⟨_, rfl⟩ := List.cons.inj whole
          exact ⟨nil, rest⟩
      | cons head tail =>
          obtain ⟨rfl, deeper⟩ := List.cons.inj whole
          obtain ⟨before, after⟩ := inductionHypothesis deeper
          exact ⟨character plain before, after⟩
  | opens _ inductionHypothesis =>
      obtain ⟨middle, rfl, deeper⟩ := split_tag (by decide) whole.symm
      obtain ⟨before, after⟩ := inductionHypothesis deeper.symm
      exact ⟨opens before, after⟩
  | closes _ inductionHypothesis =>
      obtain ⟨middle, rfl, deeper⟩ := split_tag (by decide) whole.symm
      obtain ⟨before, after⟩ := inductionHypothesis deeper.symm
      exact ⟨closes before, after⟩

/-- The parts of a text around a bold span and inside it. -/
theorem of_bold {body rest : List Char}
    (coded : Coded (['*', '*'] ++ body ++ ['*', '*'] ++ rest)) :
    Coded body ∧ Coded rest := by
  have outer : Coded (['*'] ++ '*' :: (body ++ '*' :: '*' :: rest)) := by simpa using coded
  obtain ⟨inside, behind⟩ := cut (cut outer).2
  have further : Coded ([] ++ '*' :: rest) := behind
  exact ⟨inside, (cut further).2⟩

end Coded

theorem markCode_found {text body rest : List Char} (found : codeSpan? text = some (body, rest)) :
    markCode text = "<code>".toList ++ body ++ "</code>".toList ++ markCode rest := by
  cases text with
  | nil => cases found
  | cons head tail =>
      rw [markCode]
      split
      · rename_i body' rest' again
        obtain ⟨rfl, rfl⟩ := Prod.mk.inj (Option.some.inj (found.symm.trans again))
        rfl
      · rename_i none
        rw [none] at found
        cases found

theorem markCode_cons {head : Char} {tail : List Char}
    (notFound : codeSpan? (head :: tail) = none) :
    markCode (head :: tail) = head :: markCode tail := by
  rw [markCode]
  split
  · rename_i body rest found
    rw [notFound] at found
    cases found
  · rfl

/-- What holds no backtick is passed over. -/
theorem markCode_append {first : List Char} (noBacktick : '`' ∉ first) (second : List Char) :
    markCode (first ++ second) = first ++ markCode second := by
  induction first with
  | nil => rfl
  | cons head tail inductionHypothesis =>
      have isElse : (head :: (tail ++ second)).head? ≠ some '`' :=
        fun same => noBacktick (Option.some.inj same ▸ List.mem_cons_self)
      rw [List.cons_append, markCode_cons (codeSpan?_of_head?_ne isElse),
        inductionHypothesis fun member => noBacktick (List.mem_cons_of_mem head member),
        List.cons_append]

theorem markCode_coded {text : List Char} (plain : ∀ character ∈ text, ¬ IsAngle character) :
    Coded (markCode text) := by
  induction text using markCode.induct with
  | case1 => rw [markCode]; exact Coded.nil
  | case2 head tail body rest found inductionHypothesis =>
      have parts : ∀ character, character ∈ body ∨ character ∈ rest →
          character ∈ head :: tail := by
        intro character member
        rcases codeSpan?_eq found with split | split <;> rw [split] <;>
          rcases member with inBody | inRest <;> simp [*]
      have bodyCoded := Coded.of_not_isAngle fun character member =>
        plain character (parts character (Or.inl member))
      have restCoded := inductionHypothesis fun character member =>
        plain character (parts character (Or.inr member))
      rw [markCode_found found, List.append_assoc, List.append_assoc]
      exact (bodyCoded.append restCoded.closes).opens
  | case3 head tail notFound inductionHypothesis =>
      rw [markCode_cons notFound]
      exact .character (plain head List.mem_cons_self)
        (inductionHypothesis fun character member =>
          plain character (List.mem_cons_of_mem head member))

/-! ## Bold spans -/

/-- The tags of inline markup. -/
def inlineTags : List Tag :=
  ["code", "/code", "strong", "/strong"].map fun name => ⟨name, []⟩

theorem markBold_found {text body rest : List Char} (found : boldSpan? text = some (body, rest)) :
    markBold text = "<strong>".toList ++ body ++ "</strong>".toList ++ markBold rest := by
  cases text with
  | nil => cases found
  | cons head tail =>
      rw [markBold]
      split
      · rename_i body' rest' again
        obtain ⟨rfl, rfl⟩ := Prod.mk.inj (Option.some.inj (found.symm.trans again))
        rfl
      · rename_i none
        rw [none] at found
        cases found

theorem markBold_cons {head : Char} {tail : List Char}
    (notFound : boldSpan? (head :: tail) = none) :
    markBold (head :: tail) = head :: markBold tail := by
  rw [markBold]
  split
  · rename_i body rest found
    rw [notFound] at found
    cases found
  · rfl

/-- What holds no asterisk is passed over. -/
theorem markBold_append {first : List Char} (noAsterisk : '*' ∉ first) (second : List Char) :
    markBold (first ++ second) = first ++ markBold second := by
  induction first with
  | nil => rfl
  | cons head tail inductionHypothesis =>
      have isElse : (head :: (tail ++ second)).head? ≠ some '*' :=
        fun same => noAsterisk (Option.some.inj same ▸ List.mem_cons_self)
      rw [List.cons_append, markBold_cons (boldSpan?_of_head?_ne isElse),
        inductionHypothesis fun member => noAsterisk (List.mem_cons_of_mem head member),
        List.cons_append]

theorem Coded.marked {text : List Char} (coded : Coded text) : Marked (· ∈ inlineTags) text := by
  induction coded with
  | nil => exact .nil
  | @character head tail plain _ inductionHypothesis =>
      have first : Marked (· ∈ inlineTags) [head] :=
        .of_not_isAngle (List.forall_mem_singleton.mpr plain)
      exact first.append inductionHypothesis
  | opens _ inductionHypothesis =>
      exact Marked.append ⟨[⟨"code", []⟩], by decide, by decide⟩ inductionHypothesis
  | closes _ inductionHypothesis =>
      exact Marked.append ⟨[⟨"/code", []⟩], by decide, by decide⟩ inductionHypothesis

theorem markBold_marked {text : List Char} (coded : Coded text) :
    Marked (· ∈ inlineTags) (markBold text) := by
  -- a bold span can begin at every plain character, but not inside a tag
  induction size : text.length using Nat.strongRecOn generalizing text with
  | ind size inductionHypothesis =>
      subst size
      have opening : Marked (· ∈ inlineTags) "<strong>".toList :=
        ⟨[⟨"strong", []⟩], by decide, by decide⟩
      have closing : Marked (· ∈ inlineTags) "</strong>".toList :=
        ⟨[⟨"/strong", []⟩], by decide, by decide⟩
      cases coded with
      | nil =>
          rw [markBold]
          exact .nil
      | @character head tail plain restCoded =>
          cases found : boldSpan? (head :: tail) with
          | none =>
              have first : Marked (· ∈ inlineTags) [head] :=
                .of_not_isAngle (List.forall_mem_singleton.mpr plain)
              rw [markBold_cons found]
              exact first.append (inductionHypothesis tail.length (by simp) restCoded rfl)
          | some span =>
              obtain ⟨body, rest⟩ := span
              have whole : Coded (head :: tail) := .character plain restCoded
              rw [boldSpan?_eq found] at whole
              obtain ⟨bodyCoded, restCoded⟩ := whole.of_bold
              rw [markBold_found found]
              exact ((opening.append bodyCoded.marked).append closing).append
                (inductionHypothesis rest.length (boldSpan?_length found) restCoded rfl)
      | @opens tail restCoded =>
          have shorter : tail.length < ("<code>".toList ++ tail).length := by
            rw [List.length_append]
            exact Nat.lt_add_of_pos_left (by decide)
          rw [markBold_append (by decide)]
          exact Marked.append ⟨[⟨"code", []⟩], by decide, by decide⟩
            (inductionHypothesis tail.length shorter restCoded rfl)
      | @closes tail restCoded =>
          have shorter : tail.length < ("</code>".toList ++ tail).length := by
            rw [List.length_append]
            exact Nat.lt_add_of_pos_left (by decide)
          rw [markBold_append (by decide)]
          exact Marked.append ⟨[⟨"/code", []⟩], by decide, by decide⟩
            (inductionHypothesis tail.length shorter restCoded rfl)

/-- Inline markup has no tags but those of code and of bold text. -/
theorem renderInline_marked (text : List Char) : Marked (· ∈ inlineTags) (renderInline text) :=
  markBold_marked (markCode_coded not_isAngle_of_mem_escapeMarkup)

theorem summary_marked (text : List Char) : Marked (· ∈ inlineTags) (summary text) :=
  renderInline_marked _

end ApiDocs.Markup
