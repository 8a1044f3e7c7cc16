import ApiDocs.Markup.Block
import ApiDocs.Proofs.Text.Lines

/-!
# Forms of lines

What makes a trimmed line a fence, a heading, a bullet or plain text, said by how the line is
written.  The reader of lines tells the forms apart.
-/

namespace ApiDocs.Markup

open ApiDocs.Text

/-! ## The forms -/

/-- White space, of which there is some, and a text that does not begin with any. -/
def BlankBefore (text rest : List Char) : Prop :=
  ∃ blanks, text = blanks ++ rest ∧ blanks ≠ [] ∧ (∀ character ∈ blanks, isBlank character) ∧
    ∀ head ∈ rest.head?, isBlank head = false

/-- Three backticks and behind them, between white space, at most the name of a language. -/
def IsFence (line language : List Char) : Prop :=
  ∃ before after, line = ['`', '`', '`'] ++ (before ++ (language ++ after)) ∧
    (∀ character ∈ before, isBlank character) ∧
    (∀ character ∈ language, isLanguageCharacter character) ∧
    ∀ character ∈ after, isBlank character

/-- One to six number signs, white space and a title. -/
def IsHeading (line : List Char) (level : Nat) (title : List Char) : Prop :=
  (1 ≤ level ∧ level ≤ 6) ∧
    ∃ rest, line = List.replicate level '#' ++ rest ∧ BlankBefore rest title

/-- A minus sign, an asterisk or a plus sign, white space and a text. -/
def IsBullet (line item : List Char) : Prop :=
  ∃ mark rest, (mark = '-' ∨ mark = '*' ∨ mark = '+') ∧ line = mark :: rest ∧
    BlankBefore rest item

/-- None of the other forms, and not empty. -/
structure IsPlain (line : List Char) : Prop where
  nonempty : line ≠ []
  noFence : ∀ language, ¬ IsFence line language
  noHeading : ∀ level title, ¬ IsHeading line level title
  noBullet : ∀ item, ¬ IsBullet line item

/-! ## Runs of characters -/

section Runs

variable {test : Char → Bool} {first rest : List Char}

theorem takeWhile_append_of_stop (passes : ∀ character ∈ first, test character)
    (stops : ∀ head ∈ rest.head?, test head = false) :
    (first ++ rest).takeWhile test = first := by
  rw [List.takeWhile_append_of_pos passes]
  cases rest with
  | nil => exact List.append_nil first
  | cons head tail =>
      rw [List.takeWhile_cons_of_neg (by rw [stops head rfl]; decide), List.append_nil]

theorem dropWhile_append_of_stop (passes : ∀ character ∈ first, test character)
    (stops : ∀ head ∈ rest.head?, test head = false) :
    (first ++ rest).dropWhile test = rest := by
  rw [List.dropWhile_append_of_pos passes]
  cases rest with
  | nil => rfl
  | cons head tail => exact List.dropWhile_cons_of_neg (by rw [stops head rfl]; decide)

end Runs

/-- The code points of white space. -/
def blankCodePoints : List Nat :=
  [0x09, 0x0A, 0x0B, 0x0C, 0x0D, 0x1C, 0x1D, 0x1E, 0x1F, 0x20, 0x85, 0xA0, 0x1680, 0x2000, 0x2001,
    0x2002, 0x2003, 0x2004, 0x2005, 0x2006, 0x2007, 0x2008, 0x2009, 0x200A, 0x2028, 0x2029, 0x202F,
    0x205F, 0x3000]

theorem mem_blankCodePoints {character : Char} (isBlank : isBlank character = true) :
    character.toNat ∈ blankCodePoints := by
  simp only [Text.isBlank, Bool.or_eq_true, Bool.and_eq_true, decide_eq_true_eq,
    beq_iff_eq] at isBlank
  simp only [blankCodePoints, List.mem_cons, List.not_mem_nil, or_false]
  omega

/-- White space is no part of a word. -/
theorem isWord_of_isBlank {character : Char} (isBlank : isBlank character = true) :
    isWord character = false := by
  have outside : (wordRanges.toList.all fun range => blankCodePoints.all fun codePoint =>
      !(range.1.ble codePoint && codePoint.ble range.2)) = true := by
    decide +kernel
  have member := mem_blankCodePoints isBlank
  have noRange : inRanges wordRanges character.toNat = false := by
    rw [inRanges, ← Array.any_toList, List.any_eq_false]
    intro range isRange inside
    have elsewhere := List.all_eq_true.mp (List.all_eq_true.mp outside range isRange) _ member
    simp only [Bool.and_eq_true, decide_eq_true_eq] at inside
    rw [Nat.ble_eq_true_of_le inside.1, Nat.ble_eq_true_of_le inside.2] at elsewhere
    cases elsewhere
  have noUnderscore : (character == '_') = false := by
    apply beq_eq_false_iff_ne.mpr
    rintro rfl
    exact absurd isBlank (by decide)
  rw [isWord, noRange, noUnderscore]
  rfl

/-- White space is no part of the name of a language. -/
theorem isLanguageCharacter_of_isBlank {character : Char} (isBlank : isBlank character = true) :
    isLanguageCharacter character = false := by
  have isElse (mark : Char) (noBlank : Text.isBlank mark = false) :
      (character == mark) = false := by
    apply beq_eq_false_iff_ne.mpr
    rintro rfl
    exact Bool.noConfusion (isBlank.symm.trans noBlank)
  rw [isLanguageCharacter, isWord_of_isBlank isBlank, isElse '+' (by decide),
    isElse '-' (by decide)]
  rfl

/-! ## Reading the forms -/

section Reading

variable {line language title item : List Char} {level : Nat}

theorem afterBlank?_eq_some_iff {text rest : List Char} :
    afterBlank? text = some rest ↔ BlankBefore text rest := by
  constructor
  · intro found
    cases text with
    | nil => cases found
    | cons head tail =>
        rw [afterBlank?] at found
        split at found
        · rename_i isBlank
          cases found
          refine ⟨head :: tail.takeWhile Text.isBlank, ?_, List.cons_ne_nil _ _, ?_, ?_⟩
          · rw [List.cons_append, trimStart, List.takeWhile_append_dropWhile]
          · exact List.forall_mem_cons.mpr ⟨isBlank, fun character => List.mem_takeWhile_imp⟩
          · exact head?_trimStart tail
        · cases found
  · rintro ⟨blanks, rfl, nonempty, areBlank, stops⟩
    cases blanks with
    | nil => exact absurd rfl nonempty
    | cons head tail =>
        obtain ⟨headBlank, tailBlank⟩ := List.forall_mem_cons.mp areBlank
        rw [List.cons_append, afterBlank?, if_pos headBlank, trimStart,
          dropWhile_append_of_stop tailBlank stops]

theorem fence?_eq_some_iff : fence? line = some language ↔ IsFence line language := by
  constructor
  · intro found
    unfold fence? at found
    split at found
    · rename_i rest
      simp only [Option.ite_none_right_eq_some, Option.some.injEq, List.all_eq_true] at found
      obtain ⟨remainder, rfl⟩ := found
      refine ⟨rest.takeWhile isBlank, (trimStart rest).dropWhile isLanguageCharacter, ?_, ?_, ?_,
        remainder⟩
      · rw [List.takeWhile_append_dropWhile, trimStart, List.takeWhile_append_dropWhile]
        rfl
      · exact fun character => List.mem_takeWhile_imp
      · exact fun character => List.mem_takeWhile_imp
    · cases found
  · rintro ⟨before, after, rfl, beforeBlank, isLanguage, afterBlank⟩
    have stops : ∀ head ∈ after.head?, isLanguageCharacter head = false := fun head isHead =>
      isLanguageCharacter_of_isBlank (afterBlank head (List.mem_of_mem_head? isHead))
    have content : (trimStart (before ++ (language ++ after))).takeWhile isLanguageCharacter =
          language ∧
        ∀ character ∈ (trimStart (before ++ (language ++ after))).dropWhile isLanguageCharacter,
          isBlank character := by
      cases language with
      | nil =>
          have nothing : trimStart (before ++ ([] ++ after)) = [] :=
            List.dropWhile_eq_nil_iff.mpr (List.forall_mem_append.mpr ⟨beforeBlank, afterBlank⟩)
          rw [nothing]
          exact ⟨rfl, List.forall_mem_nil _⟩
      | cons first others =>
          have begins : ∀ head ∈ (first :: others ++ after).head?, isBlank head = false := by
            rintro head ⟨⟩
            apply eq_false_of_ne_true
            intro isBlank
            have isPart := isLanguage first List.mem_cons_self
            rw [isLanguageCharacter_of_isBlank isBlank] at isPart
            cases isPart
          rw [trimStart, dropWhile_append_of_stop beforeBlank begins,
            takeWhile_append_of_stop isLanguage stops, dropWhile_append_of_stop isLanguage stops]
          exact ⟨rfl, afterBlank⟩
    simp only [List.cons_append, List.nil_append, fence?]
    rw [content.1, if_pos (List.all_eq_true.mpr content.2)]

theorem drop_length_takeWhile (test : Char → Bool) (text : List Char) :
    text.drop (text.takeWhile test).length = text.dropWhile test := by
  have whole : text.takeWhile test ++ text.dropWhile test = text := List.takeWhile_append_dropWhile
  calc text.drop (text.takeWhile test).length
      = (text.takeWhile test ++ text.dropWhile test).drop (text.takeWhile test).length := by
        rw [whole]
    _ = text.dropWhile test := List.drop_left

theorem heading?_eq_some_iff :
    heading? line = some (level, title) ↔ IsHeading line level title := by
  constructor
  · intro found
    simp only [heading?, Option.ite_none_right_eq_some, Option.map_eq_some_iff,
      Prod.mk.injEq] at found
    obtain ⟨bounds, title, behind, rfl, rfl⟩ := found
    rw [drop_length_takeWhile, afterBlank?_eq_some_iff] at behind
    have marks : line.takeWhile (· == '#') =
        List.replicate (line.takeWhile (· == '#')).length '#' :=
      List.eq_replicate_of_mem fun character member => by
        have passes := List.mem_takeWhile_imp member
        exact beq_iff_eq.mp passes
    refine ⟨bounds, line.dropWhile (· == '#'), ?_, behind⟩
    rw [← marks, List.takeWhile_append_dropWhile]
  · rintro ⟨bounds, rest, rfl, blankBefore⟩
    have marks : ∀ character ∈ List.replicate level '#', (character == '#') = true :=
      fun character member => beq_iff_eq.mpr (List.eq_of_mem_replicate member)
    have stops : ∀ head ∈ rest.head?, (head == '#') = false := by
      obtain ⟨blanks, rfl, nonempty, areBlank, _⟩ := blankBefore
      intro head isHead
      rw [List.head?_append_of_ne_nil _ nonempty] at isHead
      have isBlank := areBlank head (List.mem_of_mem_head? isHead)
      apply beq_eq_false_iff_ne.mpr
      rintro rfl
      exact absurd isBlank (by decide)
    have level_eq :
        ((List.replicate level '#' ++ rest).takeWhile (· == '#')).length = level := by
      rw [takeWhile_append_of_stop marks stops, List.length_replicate]
    have behind : (List.replicate level '#' ++ rest).drop level = rest :=
      List.drop_left' List.length_replicate
    simp only [heading?, level_eq, behind, if_pos bounds,
      afterBlank?_eq_some_iff.mpr blankBefore, Option.map_some]

theorem bullet?_eq_some_iff : bullet? line = some item ↔ IsBullet line item := by
  constructor
  · intro found
    cases line with
    | nil => cases found
    | cons mark rest =>
        simp only [bullet?, Option.ite_none_right_eq_some, Bool.or_eq_true, beq_iff_eq,
          or_assoc] at found
        exact ⟨mark, rest, found.1, rfl, afterBlank?_eq_some_iff.mp found.2⟩
  · rintro ⟨mark, rest, isMark, rfl, blankBefore⟩
    simp only [bullet?, Option.ite_none_right_eq_some, Bool.or_eq_true, beq_iff_eq, or_assoc]
    exact ⟨isMark, afterBlank?_eq_some_iff.mpr blankBefore⟩

/-! ## Telling the forms apart -/

theorem IsFence.head?_eq (isFence : IsFence line language) : line.head? = some '`' := by
  obtain ⟨before, after, rfl, _⟩ := isFence
  rfl

theorem IsHeading.head?_eq (isHeading : IsHeading line level title) : line.head? = some '#' := by
  obtain ⟨bounds, rest, rfl, _⟩ := isHeading
  obtain ⟨fewer, rfl⟩ : ∃ fewer, level = fewer + 1 := ⟨level - 1, by omega⟩
  rfl

theorem IsBullet.head?_eq (isBullet : IsBullet line item) :
    line.head? = some '-' ∨ line.head? = some '*' ∨ line.head? = some '+' := by
  obtain ⟨mark, rest, isMark, rfl, _⟩ := isBullet
  exact isMark.imp (congrArg some) (Or.imp (congrArg some) (congrArg some))

theorem fence?_eq_none_iff : fence? line = none ↔ ∀ language, ¬ IsFence line language := by
  simp only [← fence?_eq_some_iff, Option.eq_none_iff_forall_ne_some]

theorem heading?_eq_none_iff :
    heading? line = none ↔ ∀ level title, ¬ IsHeading line level title := by
  simp only [← heading?_eq_some_iff, Option.eq_none_iff_forall_ne_some, Prod.forall]

theorem bullet?_eq_none_iff : bullet? line = none ↔ ∀ item, ¬ IsBullet line item := by
  simp only [← bullet?_eq_some_iff, Option.eq_none_iff_forall_ne_some]

end Reading

/-- The form of a line. -/
inductive HasForm : List Char → LineKind → Prop where
  | blank : HasForm [] .blank
  | fence {line language : List Char} : IsFence line language → HasForm line (.fence language)
  | heading {line title : List Char} {level : Nat} :
      IsHeading line level title → HasForm line (.heading level title)
  | bullet {line item : List Char} : IsBullet line item → HasForm line (.bullet item)
  | plain {line : List Char} : IsPlain line → HasForm line .plain

theorem hasForm_of (line : List Char) : HasForm line (.of line) := by
  unfold LineKind.of
  split
  · rename_i found
    exact .fence (fence?_eq_some_iff.mp found)
  · rename_i noFence
    split
    · rename_i empty
      rw [List.isEmpty_iff.mp empty]
      exact .blank
    · rename_i nonempty
      split
      · rename_i found
        exact .heading (heading?_eq_some_iff.mp found)
      · rename_i noHeading
        split
        · rename_i found
          exact .bullet (bullet?_eq_some_iff.mp found)
        · rename_i noBullet
          exact .plain ⟨fun empty => nonempty (List.isEmpty_iff.mpr empty),
            fence?_eq_none_iff.mp noFence, heading?_eq_none_iff.mp noHeading,
            bullet?_eq_none_iff.mp noBullet⟩

/-- A line has one form, and the reader of lines finds it. -/
theorem of_eq_iff {line : List Char} {kind : LineKind} :
    LineKind.of line = kind ↔ HasForm line kind := by
  constructor
  · rintro rfl
    exact hasForm_of line
  · intro hasForm
    have nonempty {head : Char} (begins : line.head? = some head) : line.isEmpty = false := by
      obtain ⟨tail, rfl⟩ := List.head?_eq_some_iff.mp begins
      rfl
    have noFence {head : Char} (begins : line.head? = some head) (isElse : head ≠ '`') :
        fence? line = none :=
      fence?_eq_none_iff.mpr fun language isFence =>
        isElse (Option.some.inj (begins.symm.trans isFence.head?_eq))
    cases hasForm with
    | blank => rfl
    | fence isFence => rw [LineKind.of, fence?_eq_some_iff.mpr isFence]
    | heading isHeading =>
        have begins := isHeading.head?_eq
        simp only [LineKind.of, noFence begins (by decide), nonempty begins,
          heading?_eq_some_iff.mpr isHeading, Bool.false_eq_true, if_false]
    | bullet isBullet =>
        obtain ⟨head, begins, noTick, noHash⟩ :
            ∃ head, line.head? = some head ∧ head ≠ '`' ∧ head ≠ '#' := by
          rcases isBullet.head?_eq with begins | begins | begins
          · exact ⟨'-', begins, by decide⟩
          · exact ⟨'*', begins, by decide⟩
          · exact ⟨'+', begins, by decide⟩
        have noHeading : heading? line = none :=
          heading?_eq_none_iff.mpr fun level title isHeading =>
            noHash (Option.some.inj (begins.symm.trans isHeading.head?_eq))
        simp only [LineKind.of, noFence begins noTick, nonempty begins, noHeading,
          bullet?_eq_some_iff.mpr isBullet, Bool.false_eq_true, if_false]
    | plain isPlain =>
        have notEmpty : line.isEmpty = false :=
          eq_false_of_ne_true fun empty => isPlain.nonempty (List.isEmpty_iff.mp empty)
        simp only [LineKind.of, fence?_eq_none_iff.mpr isPlain.noFence, notEmpty,
          heading?_eq_none_iff.mpr isPlain.noHeading, bullet?_eq_none_iff.mpr isPlain.noBullet,
          Bool.false_eq_true, if_false]

theorem form_cases (line : List Char) :
    line = [] ∨ (∃ language, IsFence line language) ∨
      (∃ level title, IsHeading line level title) ∨ (∃ item, IsBullet line item) ∨
        IsPlain line := by
  have form := hasForm_of line
  generalize LineKind.of line = kind at form
  cases form with
  | blank => exact Or.inl rfl
  | fence isFence => exact Or.inr (Or.inl ⟨_, isFence⟩)
  | heading isHeading => exact Or.inr (Or.inr (Or.inl ⟨_, _, isHeading⟩))
  | bullet isBullet => exact Or.inr (Or.inr (Or.inr (Or.inl ⟨_, isBullet⟩)))
  | plain isPlain => exact Or.inr (Or.inr (Or.inr (Or.inr isPlain)))

theorem of_eq_fence_iff {line language : List Char} :
    LineKind.of line = .fence language ↔ IsFence line language := by
  constructor
  · intro kind
    cases of_eq_iff.mp kind with
    | fence isFence => exact isFence
  · exact fun isFence => of_eq_iff.mpr (.fence isFence)

theorem of_eq_plain_iff {line : List Char} : LineKind.of line = .plain ↔ IsPlain line := by
  constructor
  · intro kind
    cases of_eq_iff.mp kind with
    | plain isPlain => exact isPlain
  · exact fun isPlain => of_eq_iff.mpr (.plain isPlain)

end ApiDocs.Markup
