import ApiDocs.Text.Escape

/-!
# Marks in texts

How often a mark stands in a text, in whatever letter case: a mark that is cut by no border of the
pieces of a text is counted piece by piece, and a script literal holds a mark as often as the text
that it stands for.
-/

namespace ApiDocs.Text

/-- A text begins with a mark, in whatever letter case.  The mark is in lower case. -/
def BeginsWith (mark text : List Char) : Prop := mark <+: text.map Char.toLower

instance (mark text : List Char) : Decidable (BeginsWith mark text) :=
  inferInstanceAs (Decidable (_ <+: _))

/-- At how many places of a text a mark stands. -/
def occurrences (mark : List Char) : List Char → Nat
  | [] => 0
  | head :: tail => (if BeginsWith mark (head :: tail) then 1 else 0) + occurrences mark tail

theorem beginsWith_nil (text : List Char) : BeginsWith [] text := List.nil_prefix

theorem not_beginsWith_nil {letter : Char} {mark : List Char} : ¬ BeginsWith (letter :: mark) [] :=
  nofun

theorem beginsWith_cons {letter head : Char} {mark tail : List Char} :
    BeginsWith (letter :: mark) (head :: tail) ↔ letter = head.toLower ∧ BeginsWith mark tail :=
  List.cons_prefix_cons

/-- What holds of every character of a text can be computed. -/
theorem forall_of_all {property : Char → Prop} [DecidablePred property] {text : List Char}
    (all : (text.all fun character => property character) = true) :
    ∀ character ∈ text, property character :=
  fun character member => of_decide_eq_true (List.all_eq_true.mp all character member)

/-! ## Texts in pieces -/

section Pieces

variable {letter next : Char} {mark first second : List Char}

/-- A mark does not reach beyond a character that it does not hold. -/
theorem beginsWith_append (isNone : next.toLower ∉ mark) :
    BeginsWith mark (first ++ next :: second) ↔ BeginsWith mark first := by
  induction first generalizing mark with
  | nil =>
      cases mark with
      | nil => exact iff_of_true (beginsWith_nil _) (beginsWith_nil _)
      | cons letter mark =>
          rw [List.nil_append, beginsWith_cons]
          refine iff_of_false (fun begins => ?_) not_beginsWith_nil
          exact isNone (begins.1 ▸ List.mem_cons_self)
  | cons head tail inductionHypothesis =>
      cases mark with
      | nil => exact iff_of_true (beginsWith_nil _) (beginsWith_nil _)
      | cons letter mark =>
          rw [List.cons_append, beginsWith_cons, beginsWith_cons,
            inductionHypothesis fun member => isNone (List.mem_cons_of_mem letter member)]

theorem beginsWith_cons_append {head : Char} (isNone : next.toLower ∉ mark) :
    BeginsWith (letter :: mark) (head :: (first ++ next :: second)) ↔
      BeginsWith (letter :: mark) (head :: first) := by
  rw [beginsWith_cons, beginsWith_cons, beginsWith_append isNone]

/-- Two pieces hold a mark as often as both together where it cannot stand across the border. -/
theorem occurrences_append (isNone : next.toLower ∉ mark) :
    occurrences (letter :: mark) (first ++ next :: second) =
      occurrences (letter :: mark) first + occurrences (letter :: mark) (next :: second) := by
  induction first with
  | nil => rw [List.nil_append, occurrences, Nat.zero_add]
  | cons head tail inductionHypothesis =>
      rw [List.cons_append, occurrences, occurrences, inductionHypothesis, Nat.add_assoc]
      simp only [beginsWith_cons_append isNone]

/-- A piece without the first letter of a mark holds no beginning of it. -/
theorem occurrences_append_of_forall_ne
    (isNone : ∀ character ∈ first, letter ≠ character.toLower) :
    occurrences (letter :: mark) (first ++ second) = occurrences (letter :: mark) second := by
  induction first with
  | nil => rfl
  | cons head tail inductionHypothesis =>
      obtain ⟨isNoneFirst, isNoneLater⟩ := List.forall_mem_cons.mp isNone
      have noBegin : ¬ BeginsWith (letter :: mark) (head :: (tail ++ second)) := fun begins =>
        isNoneFirst (beginsWith_cons.mp begins).1
      rw [List.cons_append, occurrences, if_neg noBegin, Nat.zero_add,
        inductionHypothesis isNoneLater]

theorem occurrences_eq_zero (isNone : ∀ character ∈ first, letter ≠ character.toLower) :
    occurrences (letter :: mark) first = 0 := by
  rw [← List.append_nil first, occurrences_append_of_forall_ne isNone, occurrences]

end Pieces

theorem not_beginsWith_of_occurrences {mark : List Char} {head : Char} {tail : List Char}
    (isNone : occurrences mark (head :: tail) = 0) :
    ¬ BeginsWith mark (head :: tail) ∧ occurrences mark tail = 0 := by
  rw [occurrences] at isNone
  split at isNone
  · omega
  · exact ⟨‹_›, by omega⟩

/-! ## Script literals -/

/-- A character that stands in a script literal as it is. -/
def IsVerbatim (character : Char) : Prop :=
  0x20 ≤ character.toNat ∧ character.toNat ≤ 0x7E ∧ character ≠ '"' ∧ character ≠ '\\'

instance (character : Char) : Decidable (IsVerbatim character) :=
  inferInstanceAs (Decidable (_ ∧ _))

theorem escapeScriptCharacter_of_isVerbatim {character : Char} (verbatim : IsVerbatim character) :
    escapeScriptCharacter character = [character] := by
  obtain ⟨atLeast, atMost, noQuote, noSlash⟩ := verbatim
  unfold escapeScriptCharacter
  split
  · exact absurd rfl noQuote
  · exact absurd rfl noSlash
  · exact absurd atLeast (by decide)
  · exact absurd atLeast (by decide)
  · exact absurd atLeast (by decide)
  · exact absurd atLeast (by decide)
  · exact absurd atLeast (by decide)
  · simp [atLeast, atMost]

theorem exists_hexDigit_of_mem {width value : Nat} {character : Char}
    (member : character ∈ hexDigits width value) : ∃ digit < 16, character = hexDigit digit := by
  induction width generalizing value with
  | zero => cases member
  | succ width inductionHypothesis =>
      rw [hexDigits, List.mem_append, List.mem_singleton] at member
      rcases member with earlier | rfl
      · exact inductionHypothesis earlier
      · exact ⟨value % 16, Nat.mod_lt value (by decide), rfl⟩

theorem less_ne_of_mem_escapeUnit {unit : Nat} {character : Char}
    (member : character ∈ escapeUnit unit) : '<' ≠ character.toLower := by
  have digits : ∀ digit < 16, '<' ≠ (hexDigit digit).toLower := by decide
  rw [escapeUnit, List.mem_cons, List.mem_cons] at member
  rcases member with rfl | rfl | inDigits
  · decide
  · decide
  · obtain ⟨digit, isDigit, rfl⟩ := exists_hexDigit_of_mem inDigits
    exact digits digit isDigit

/-- All other characters are escaped, without an angle bracket. -/
theorem escapeScriptCharacter_of_not_isVerbatim {character : Char}
    (escaped : ¬ IsVerbatim character) :
    ∃ rest, escapeScriptCharacter character = '\\' :: rest ∧
      ∀ other ∈ escapeScriptCharacter character, '<' ≠ other.toLower := by
  unfold escapeScriptCharacter
  split
  · exact ⟨_, rfl, forall_of_all (by decide)⟩
  · exact ⟨_, rfl, forall_of_all (by decide)⟩
  · exact ⟨_, rfl, forall_of_all (by decide)⟩
  · exact ⟨_, rfl, forall_of_all (by decide)⟩
  · exact ⟨_, rfl, forall_of_all (by decide)⟩
  · exact ⟨_, rfl, forall_of_all (by decide)⟩
  · exact ⟨_, rfl, forall_of_all (by decide)⟩
  · rename_i noQuote noSlash _ _ _ _ _
    have outside : (0x20 ≤ character.toNat && character.toNat ≤ 0x7E) = false := by
      refine Bool.eq_false_iff.mpr fun inside => ?_
      simp only [Bool.and_eq_true, decide_eq_true_eq] at inside
      exact escaped ⟨inside.1, inside.2, noQuote, noSlash⟩
    simp only [outside, Bool.false_eq_true, if_false]
    split
    · exact ⟨_, rfl, fun _ => less_ne_of_mem_escapeUnit⟩
    · exact ⟨_, rfl, fun other member =>
        (List.mem_append.mp member).elim less_ne_of_mem_escapeUnit less_ne_of_mem_escapeUnit⟩

theorem toLower_of_not_isVerbatim {character : Char} (escaped : ¬ IsVerbatim character) :
    character.toLower = character := by
  refine dif_neg fun isUpper => escaped ?_
  have atLeast : 65 ≤ character.toNat := UInt32.le_iff_toNat_le.mp isUpper.1
  have atMost : character.toNat ≤ 90 := UInt32.le_iff_toNat_le.mp isUpper.2
  refine ⟨by omega, by omega, ?_, ?_⟩
  · rintro rfl
    exact absurd atLeast (by decide)
  · rintro rfl
    exact absurd atMost (by decide)

/-- No other character is `<` in lower case. -/
theorem less_ne_toLower {character : Char} (noLess : character ≠ '<') :
    '<' ≠ character.toLower := by
  by_cases isPlain : IsVerbatim character
  · have ascii : ∀ number < 127, '<' = (Char.ofNat number).toLower → number = 60 := by
      decide +kernel
    intro same
    rw [← Char.ofNat_toNat character] at same noLess
    rw [ascii character.toNat (Nat.lt_succ_of_le isPlain.2.1) same] at noLess
    exact noLess rfl
  · rw [toLower_of_not_isVerbatim isPlain]
    exact Ne.symm noLess

/-- A mark that needs no escape begins a literal just where it begins the text. -/
theorem beginsWith_escape {mark : List Char} (verbatim : ∀ letter ∈ mark, IsVerbatim letter)
    (text : List Char) :
    BeginsWith mark (text.flatMap escapeScriptCharacter) ↔ BeginsWith mark text := by
  induction text generalizing mark with
  | nil => rfl
  | cons head tail inductionHypothesis =>
      cases mark with
      | nil => exact iff_of_true (beginsWith_nil _) (beginsWith_nil _)
      | cons letter mark =>
          obtain ⟨isFirst, areLater⟩ := List.forall_mem_cons.mp verbatim
          rw [List.flatMap_cons, beginsWith_cons]
          by_cases isPlain : IsVerbatim head
          · rw [escapeScriptCharacter_of_isVerbatim isPlain, List.singleton_append, beginsWith_cons,
              inductionHypothesis areLater]
          · obtain ⟨rest, escape, _⟩ := escapeScriptCharacter_of_not_isVerbatim isPlain
            rw [escape, List.cons_append, beginsWith_cons, toLower_of_not_isVerbatim isPlain]
            refine iff_of_false (fun begins => ?_) fun begins => isPlain (begins.1 ▸ isFirst)
            exact isFirst.2.2.2 begins.1

/-- A literal holds a mark as often as the text that it stands for. -/
theorem occurrences_escape {mark : List Char} (verbatim : ∀ letter ∈ mark, IsVerbatim letter)
    (text : List Char) :
    occurrences ('<' :: mark) (text.flatMap escapeScriptCharacter) =
      occurrences ('<' :: mark) text := by
  have verbatimAll : ∀ letter ∈ '<' :: mark, IsVerbatim letter :=
    List.forall_mem_cons.mpr ⟨by decide, verbatim⟩
  induction text with
  | nil => rfl
  | cons head tail inductionHypothesis =>
      by_cases isPlain : IsVerbatim head
      · have begins := beginsWith_escape verbatimAll (head :: tail)
        rw [List.flatMap_cons, escapeScriptCharacter_of_isVerbatim isPlain,
          List.singleton_append] at begins ⊢
        rw [occurrences, occurrences, inductionHypothesis]
        simp only [begins]
      · obtain ⟨_, _, noLess⟩ := escapeScriptCharacter_of_not_isVerbatim isPlain
        have noBegin : ¬ BeginsWith ('<' :: mark) (head :: tail) := by
          rw [beginsWith_cons, toLower_of_not_isVerbatim isPlain]
          rintro ⟨rfl, _⟩
          exact isPlain (by decide)
        rw [List.flatMap_cons, occurrences_append_of_forall_ne noLess, inductionHypothesis,
          occurrences, if_neg noBegin, Nat.zero_add]

theorem occurrences_scriptLiteral {mark : List Char} (verbatim : ∀ letter ∈ mark, IsVerbatim letter)
    (text : List Char) :
    occurrences ('<' :: mark) (scriptLiteral text) = occurrences ('<' :: mark) text := by
  have noQuote : Char.toLower '"' ∉ mark := fun member => (verbatim '"' member).2.2.1 rfl
  have pieces : scriptLiteral text =
      ['"'] ++ (text.flatMap escapeScriptCharacter ++ '"' :: []) := rfl
  have noLess : ∀ character ∈ ['"'], '<' ≠ character.toLower := forall_of_all (by decide)
  rw [pieces, occurrences_append_of_forall_ne noLess, occurrences_append noQuote,
    occurrences_escape verbatim, occurrences_eq_zero noLess, Nat.add_zero]

end ApiDocs.Text
