import ApiDocs.Text.Escape

/-!
# Escaped text

Escaped text holds no character that could begin or end a tag or an attribute value, and reading
the entities of an escaped text gives the text back.
-/

namespace ApiDocs.Text

/-! ## Reading entities -/

/-- The entities for the characters that are escaped are read as these characters. -/
def unescape : List Char → List Char
  | '&' :: 'a' :: 'm' :: 'p' :: ';' :: rest => '&' :: unescape rest
  | '&' :: 'l' :: 't' :: ';' :: rest => '<' :: unescape rest
  | '&' :: 'g' :: 't' :: ';' :: rest => '>' :: unescape rest
  | '&' :: 'q' :: 'u' :: 'o' :: 't' :: ';' :: rest => '"' :: unescape rest
  | '&' :: '#' :: 'x' :: '2' :: '7' :: ';' :: rest => '\'' :: unescape rest
  | '&' :: '#' :: '3' :: '9' :: ';' :: rest => '\'' :: unescape rest
  | head :: rest => head :: unescape rest
  | [] => []

theorem unescape_cons {head : Char} (isElse : head ≠ '&') (rest : List Char) :
    unescape (head :: rest) = head :: unescape rest := by
  conv => lhs; unfold unescape
  split <;> simp_all

theorem unescape_escapeMarkupCharacter (character : Char) (rest : List Char) :
    unescape (escapeMarkupCharacter character ++ rest) = character :: unescape rest := by
  unfold escapeMarkupCharacter
  split
  · rfl
  · rfl
  · rfl
  · rename_i isElse _ _
    exact unescape_cons isElse rest

theorem unescape_escapeAttributeCharacter (character : Char) (rest : List Char) :
    unescape (escapeAttributeCharacter character ++ rest) = character :: unescape rest := by
  unfold escapeAttributeCharacter
  split
  · rfl
  · rfl
  · exact unescape_escapeMarkupCharacter character rest

theorem unescape_escapeMarkup (text : List Char) : unescape (escapeMarkup text) = text := by
  induction text with
  | nil => rfl
  | cons head tail inductionHypothesis =>
      rw [escapeMarkup, List.flatMap_cons, unescape_escapeMarkupCharacter]
      exact congrArg _ inductionHypothesis

/-- Escaping is undone by reading the entities. -/
theorem unescape_escapeAttribute (text : List Char) : unescape (escapeAttribute text) = text := by
  induction text with
  | nil => rfl
  | cons head tail inductionHypothesis =>
      rw [escapeAttribute, List.flatMap_cons, unescape_escapeAttributeCharacter]
      exact congrArg _ inductionHypothesis

/-! ## Characters that are escaped -/

/-- A character that can begin or end a tag. -/
def IsAngle (character : Char) : Prop := character = '<' ∨ character = '>'

instance (character : Char) : Decidable (IsAngle character) :=
  inferInstanceAs (Decidable (_ ∨ _))

/-- A character that can stand inside an attribute value between double quotes. -/
structure IsQuotable (character : Char) : Prop where
  noAngle : ¬ IsAngle character
  noQuote : character ≠ '"'

theorem isQuotable_iff {character : Char} :
    IsQuotable character ↔ ¬ IsAngle character ∧ character ≠ '"' :=
  ⟨fun quotable => ⟨quotable.noAngle, quotable.noQuote⟩, fun both => ⟨both.1, both.2⟩⟩

instance (character : Char) : Decidable (IsQuotable character) :=
  decidable_of_iff _ isQuotable_iff.symm

section Characters

variable {original character : Char}

/-- Whether the characters of a text are such can be computed. -/
theorem isQuotable_of_all {text : List Char}
    (quotable : (text.all fun character => IsQuotable character) = true)
    (member : character ∈ text) :
    IsQuotable character :=
  of_decide_eq_true (List.all_eq_true.mp quotable character member)

theorem not_isAngle_of_mem_escapeMarkupCharacter
    (member : character ∈ escapeMarkupCharacter original) :
    ¬ IsAngle character := by
  unfold escapeMarkupCharacter at member
  split at member
  · exact (isQuotable_of_all (by decide) member).noAngle
  · exact (isQuotable_of_all (by decide) member).noAngle
  · exact (isQuotable_of_all (by decide) member).noAngle
  · rename_i noLess noGreater
    rw [List.mem_singleton.mp member]
    exact not_or.mpr ⟨noLess, noGreater⟩

theorem isQuotable_of_mem_escapeAttributeCharacter
    (member : character ∈ escapeAttributeCharacter original) :
    IsQuotable character := by
  unfold escapeAttributeCharacter at member
  split at member
  · exact isQuotable_of_all (by decide) member
  · exact isQuotable_of_all (by decide) member
  · rename_i noQuote _
    refine ⟨not_isAngle_of_mem_escapeMarkupCharacter member, ?_⟩
    unfold escapeMarkupCharacter at member
    split at member
    · exact (isQuotable_of_all (by decide) member).noQuote
    · exact (isQuotable_of_all (by decide) member).noQuote
    · exact (isQuotable_of_all (by decide) member).noQuote
    · rw [List.mem_singleton.mp member]
      exact noQuote

theorem not_isAngle_of_mem_escapeCodeCharacter
    (member : character ∈ escapeCodeCharacter original) :
    ¬ IsAngle character := by
  unfold escapeCodeCharacter at member
  split at member
  · exact (isQuotable_of_all (by decide) member).noAngle
  · exact (isQuotable_of_all (by decide) member).noAngle
  · exact not_isAngle_of_mem_escapeMarkupCharacter member

end Characters

section Texts

variable {text : List Char}

theorem not_isAngle_of_mem_escapeMarkup :
    ∀ character ∈ escapeMarkup text, ¬ IsAngle character := by
  intro character member
  obtain ⟨original, _, inside⟩ := List.mem_flatMap.mp member
  exact not_isAngle_of_mem_escapeMarkupCharacter inside

theorem isQuotable_of_mem_escapeAttribute :
    ∀ character ∈ escapeAttribute text, IsQuotable character := by
  intro character member
  obtain ⟨original, _, inside⟩ := List.mem_flatMap.mp member
  exact isQuotable_of_mem_escapeAttributeCharacter inside

theorem not_isAngle_of_mem_escapeCode :
    ∀ character ∈ escapeCode text, ¬ IsAngle character := by
  intro character member
  obtain ⟨original, _, inside⟩ := List.mem_flatMap.mp member
  exact not_isAngle_of_mem_escapeCodeCharacter inside

end Texts

end ApiDocs.Text
