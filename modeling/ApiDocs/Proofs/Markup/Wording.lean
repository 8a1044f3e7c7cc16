import ApiDocs.Proofs.Markup.Marking

/-!
# The wording of inline markup

Inline markup keeps the wording of its text: each `<` begins a tag and each `&` an entity, and
when the tags are removed and the entities are read, the text is left but for delimiters.  A tag
stands where a delimiter of its element stood, which marking preserves.
-/

namespace ApiDocs.Markup

open ApiDocs.Text

/-! ## Tags and entities -/

/-- The tags of inline markup as they are written. -/
def tagSpellings : List (List Char) :=
  ["<code>", "</code>", "<strong>", "</strong>"].map String.toList

/-- The entities of inline markup as they are written. -/
def entities : List (List Char) := ["&amp;", "&lt;", "&gt;"].map String.toList

section Tokens

variable {token : Token} {tail : List Char}

theorem spelling_mem_tagSpellings (spelled : token.spelling = '<' :: tail) :
    token.spelling ∈ tagSpellings := by
  cases token with
  | opens element => cases element <;> decide
  | closes element => cases element <;> decide
  | letter character =>
      by_cases special : IsSpecial character
      · rcases special with rfl | rfl | rfl <;> cases spelled
      · rw [Token.spelling, escapeMarkupCharacter_of_plain special] at spelled
        exact absurd (Or.inl (List.cons.inj spelled).1) special

theorem spelling_mem_entities (spelled : token.spelling = '&' :: tail) :
    token.spelling ∈ entities := by
  cases token with
  | opens element => cases element <;> cases spelled
  | closes element => cases element <;> cases spelled
  | letter character =>
      by_cases special : IsSpecial character
      · rcases special with rfl | rfl | rfl <;> decide
      · rw [Token.spelling, escapeMarkupCharacter_of_plain special] at spelled
        exact absurd (Or.inr (Or.inr (List.cons.inj spelled).1)) special

/-- Nothing in the spelling of a token but its first character begins a tag or an entity. -/
theorem notMem_tail_spelling {head character : Char} (begins : character = '<' ∨ character = '&')
    (spelled : token.spelling = head :: tail) : character ∉ tail := by
  have rest : token.spelling.tail = tail := by rw [spelled, List.tail_cons]
  rw [← rest]
  cases token with
  | opens element => rcases begins with rfl | rfl <;> cases element <;> decide
  | closes element => rcases begins with rfl | rfl <;> cases element <;> decide
  | letter original =>
      by_cases special : IsSpecial original
      · rcases begins with rfl | rfl <;> rcases special with rfl | rfl | rfl <;> decide
      · rw [Token.spelling, escapeMarkupCharacter_of_plain special]
        exact List.not_mem_nil

end Tokens

/-- A tag or an entity in a spelled text is the spelling of a token. -/
theorem exists_spelling_prefix
    {tokens : List Token} {before after : List Char} {character : Char}
    (begins : character = '<' ∨ character = '&')
    (split : spell tokens = before ++ character :: after) :
    ∃ token tail, Token.spelling token = character :: tail ∧
      token.spelling <+: character :: after := by
  induction tokens generalizing before with
  | nil =>
      rw [spell_nil] at split
      exact absurd split.symm (by simp)
  | cons token tokens inductionHypothesis =>
      obtain ⟨head, tail, spelled⟩ := exists_spelling_cons token
      rw [spell_cons] at split
      rcases List.append_eq_append_iff.mp split with ⟨middle, rfl, rest⟩ | ⟨middle, spelling, rest⟩
      · exact inductionHypothesis rest
      · -- the character lies in the spelling of the first token, so it is its first
        cases middle with
        | nil =>
            have behind : spell tokens = [] ++ character :: after := rest.symm
            exact inductionHypothesis behind
        | cons first others =>
            obtain ⟨rfl, rfl⟩ := List.cons.inj rest
            cases before with
            | nil => exact ⟨token, others, spelling, by rw [spelling]; exact ⟨spell tokens, rfl⟩⟩
            | cons other more =>
                have inside : character ∈ tail := by
                  rw [spelled] at spelling
                  rw [(List.cons.inj spelling).2]
                  exact List.mem_append_right more List.mem_cons_self
                exact absurd inside (notMem_tail_spelling begins spelled)

/-! ## Removing tags -/

/-- A text without what stands between `<` and `>`; whether it begins there is given. -/
def outsideTags : Bool → List Char → List Char
  | _, [] => []
  | true, head :: rest => outsideTags (head != '>') rest
  | false, head :: rest =>
    if head = '<' then outsideTags true rest else head :: outsideTags false rest

/-- The characters among tokens. -/
def letters (tokens : List Token) : List Char :=
  tokens.flatMap fun
    | .letter character => [character]
    | _ => []

theorem letters_letter (character : Char) (tokens : List Token) :
    letters (.letter character :: tokens) = character :: letters tokens := rfl

theorem outsideTags_append {first : List Char} (noTag : '<' ∉ first) (rest : List Char) :
    outsideTags false (first ++ rest) = first ++ outsideTags false rest := by
  induction first with
  | nil => rfl
  | cons head tail inductionHypothesis =>
      rw [List.mem_cons, not_or] at noTag
      rw [List.cons_append, outsideTags, if_neg (Ne.symm noTag.1), inductionHypothesis noTag.2,
        List.cons_append]

/-- Outside the tags of a spelled text stand its characters. -/
theorem outsideTags_spell (tokens : List Token) :
    outsideTags false (spell tokens) = escapeMarkup (letters tokens) := by
  induction tokens with
  | nil => rfl
  | cons token tokens inductionHypothesis =>
      rw [spell_cons]
      cases token with
      | opens element => cases element <;> exact inductionHypothesis
      | closes element => cases element <;> exact inductionHypothesis
      | letter character =>
          have noTag : '<' ∉ escapeMarkupCharacter character :=
            fun member => not_isAngle_of_mem_escapeMarkupCharacter member (Or.inl rfl)
          rw [Token.spelling, outsideTags_append noTag, inductionHypothesis, letters_letter,
            escapeMarkup, escapeMarkup, List.flatMap_cons]

/-! ## Tags in place of delimiters -/

/-- Tokens that stand for a text: a character for itself, a tag for a delimiter of its element. -/
inductive StandsFor : List Token → List Char → Prop where
  | nil : StandsFor [] []
  | letter {character : Char} {tokens : List Token} {text : List Char}
      (rest : StandsFor tokens text) :
      StandsFor (.letter character :: tokens) (character :: text)
  | opens {element : Element} {delimiter : List Char} (member : delimiter ∈ element.delimiters)
      {tokens : List Token} {text : List Char} (rest : StandsFor tokens text) :
      StandsFor (.opens element :: tokens) (delimiter ++ text)
  | closes {element : Element} {delimiter : List Char} (member : delimiter ∈ element.delimiters)
      {tokens : List Token} {text : List Char} (rest : StandsFor tokens text) :
      StandsFor (.closes element :: tokens) (delimiter ++ text)

namespace StandsFor

variable {first second : List Token} {text : List Char}

theorem append {firstText secondText : List Char}
    (firstStands : StandsFor first firstText) (secondStands : StandsFor second secondText) :
    StandsFor (first ++ second) (firstText ++ secondText) := by
  induction firstStands with
  | nil => exact secondStands
  | letter _ inductionHypothesis => exact letter inductionHypothesis
  | opens member _ inductionHypothesis =>
      rw [List.append_assoc]
      exact opens member inductionHypothesis
  | closes member _ inductionHypothesis =>
      rw [List.append_assoc]
      exact closes member inductionHypothesis

/-- What tokens in a row stand for is what each part stands for, in a row. -/
theorem exists_of_append (stands : StandsFor (first ++ second) text) :
    ∃ firstText secondText, text = firstText ++ secondText ∧
      StandsFor first firstText ∧ StandsFor second secondText := by
  induction first generalizing text with
  | nil => exact ⟨[], text, rfl, nil, stands⟩
  | cons token tokens inductionHypothesis =>
      cases stands with
      | @letter character _ text rest =>
          obtain ⟨firstText, secondText, rfl, firstStands, secondStands⟩ :=
            inductionHypothesis rest
          exact ⟨character :: firstText, secondText, rfl, letter firstStands, secondStands⟩
      | @opens element delimiter member _ text rest =>
          obtain ⟨firstText, secondText, rfl, firstStands, secondStands⟩ :=
            inductionHypothesis rest
          exact ⟨delimiter ++ firstText, secondText, (List.append_assoc ..).symm,
            opens member firstStands, secondStands⟩
      | @closes element delimiter member _ text rest =>
          obtain ⟨firstText, secondText, rfl, firstStands, secondStands⟩ :=
            inductionHypothesis rest
          exact ⟨delimiter ++ firstText, secondText, (List.append_assoc ..).symm,
            closes member firstStands, secondStands⟩

theorem of_letters (text : List Char) : StandsFor (text.map .letter) text := by
  induction text with
  | nil => exact nil
  | cons head tail inductionHypothesis => exact letter inductionHypothesis

theorem eq_of_letters {original : List Char} (stands : StandsFor (original.map .letter) text) :
    text = original := by
  induction original generalizing text with
  | nil =>
      cases stands
      rfl
  | cons head tail inductionHypothesis =>
      cases stands with
      | letter rest => rw [inductionHypothesis rest]

/-- Marking the spans of an element keeps what a text stands for. -/
theorem marked {element : Element} (search : Search element) {tokens : List Token}
    (stands : StandsFor tokens text) : StandsFor (search.marked tokens) text := by
  induction tokens using Search.cuts.induct search generalizing text with
  | case1 =>
      rw [search.marked_nil]
      exact stands
  | case2 head tail body rest found inductionHypothesis =>
      obtain ⟨delimiter, member, split⟩ := search.delimited found
      rw [split] at stands
      obtain ⟨opening, _, rfl, openingStands, further⟩ := stands.exists_of_append
      obtain ⟨inside, _, rfl, insideStands, further⟩ := further.exists_of_append
      obtain ⟨closing, behind, rfl, closingStands, behindStands⟩ := further.exists_of_append
      rw [openingStands.eq_of_letters, closingStands.eq_of_letters, search.marked_found found]
      exact opens member (insideStands.append (closes member (inductionHypothesis behindStands)))
  | case3 head tail notFound inductionHypothesis =>
      rw [search.marked_cons notFound]
      have split : StandsFor ([head] ++ tail) text := stands
      obtain ⟨headText, tailText, rfl, headStands, tailStands⟩ := split.exists_of_append
      exact headStands.append (inductionHypothesis tailStands)

end StandsFor

/-! ## What is left of a text -/

/-- What is left of a text when some backticks and some pairs of asterisks are deleted. -/
inductive LeftOf : List Char → List Char → Prop where
  | nil : LeftOf [] []
  | keep (character : Char) {text left : List Char} (rest : LeftOf text left) :
      LeftOf (character :: text) (character :: left)
  | backtick {text left : List Char} (rest : LeftOf text left) : LeftOf ('`' :: text) left
  | asterisks {text left : List Char} (rest : LeftOf text left) :
      LeftOf ('*' :: '*' :: text) left

theorem LeftOf.delimiter {element : Element} {delimiter : List Char}
    (member : delimiter ∈ element.delimiters) {text left : List Char} (rest : LeftOf text left) :
    LeftOf (delimiter ++ text) left := by
  cases element with
  | code =>
      rcases List.mem_cons.mp member with rfl | member
      · exact rest.backtick
      · rw [List.mem_singleton.mp member]
        exact rest.backtick.backtick
  | bold =>
      rw [List.mem_singleton.mp member]
      exact rest.asterisks

/-- The characters among tokens are left of the text that the tokens stand for. -/
theorem StandsFor.leftOf {tokens : List Token} {text : List Char} (stands : StandsFor tokens text) :
    LeftOf text (letters tokens) := by
  induction stands with
  | nil => exact .nil
  | letter _ inductionHypothesis => exact .keep _ inductionHypothesis
  | opens member _ inductionHypothesis => exact .delimiter member inductionHypothesis
  | closes member _ inductionHypothesis => exact .delimiter member inductionHypothesis

/-- Inline markup keeps the wording of its text.  Each `<` begins a tag and each `&` an entity;
without the tags and with the entities read, the text is left with some backticks and some pairs
of asterisks deleted. -/
theorem renderInline_keeps_wording (text : List Char) :
    (∀ before after, renderInline text = before ++ '<' :: after →
      ∃ tag ∈ tagSpellings, tag <+: '<' :: after) ∧
    (∀ before after, renderInline text = before ++ '&' :: after →
      ∃ entity ∈ entities, entity <+: '&' :: after) ∧
    LeftOf text (unescape (outsideTags false (renderInline text))) := by
  rw [renderInline_eq]
  refine ⟨?tags, ?entities, ?wording⟩
  case tags =>
    intro before after split
    obtain ⟨token, tail, spelled, isPrefix⟩ := exists_spelling_prefix (Or.inl rfl) split
    exact ⟨token.spelling, spelling_mem_tagSpellings spelled, isPrefix⟩
  case entities =>
    intro before after split
    obtain ⟨token, tail, spelled, isPrefix⟩ := exists_spelling_prefix (Or.inr rfl) split
    exact ⟨token.spelling, spelling_mem_entities spelled, isPrefix⟩
  case wording =>
    have stands : StandsFor (inlined text) text :=
      ((StandsFor.of_letters text).marked codeSearch).marked boldSearch
    rw [outsideTags_spell, unescape_escapeMarkup]
    exact stands.leftOf

end ApiDocs.Markup
