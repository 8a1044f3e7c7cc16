import ApiDocs.Proofs.Markup.Tokens

/-!
# Marking the spans of an element

Code and bold text are marked in the same way: wherever a span begins, it is put between the tags
of its element in place of its delimiters, and what follows the span is marked next.  A text is
cut into spans and single tokens by a search for spans, and the marked text is read off the cuts.
-/

namespace ApiDocs.Markup

open ApiDocs.Text

/-! ## Searches for spans -/

/-- What an element is written with in a text, on either side. -/
def Element.delimiters : Element → List (List Char)
  | code => [['`'], ['`', '`']]
  | bold => [['*', '*']]

/-- The search for a span of an element at the beginning of a text.  A span that is found stands
between two equal delimiters. -/
structure Search (element : Element) where
  span? : List Token → Option (List Token × List Token)
  delimited : ∀ {tokens body rest : List Token}, span? tokens = some (body, rest) →
    ∃ delimiter ∈ element.delimiters,
      tokens = delimiter.map .letter ++ (body ++ (delimiter.map .letter ++ rest))

/-- What a text is cut into: tokens that begin no span, and spans. -/
inductive Cut where
  | token (token : Token)
  | span (body : List Token)

/-- A cut without delimiters. -/
def Cut.content : Cut → List Token
  | token single => [single]
  | span body => body

/-- A cut with the tags of an element around a span. -/
def Cut.marked (element : Element) : Cut → List Token
  | token single => [single]
  | span body => .opens element :: (body ++ [.closes element])

namespace Search

variable {element : Element} (search : Search element)

theorem span?_length {tokens body rest : List Token}
    (found : search.span? tokens = some (body, rest)) : rest.length < tokens.length := by
  obtain ⟨delimiter, member, rfl⟩ := search.delimited found
  have nonempty : 0 < delimiter.length := by
    cases element <;> simp [Element.delimiters] at member <;> grind
  simp only [List.length_append, List.length_map]
  omega

def cuts (tokens : List Token) : List Cut :=
  match tokens with
  | [] => []
  | head :: tail =>
    match _found : search.span? (head :: tail) with
    | some (body, rest) => .span body :: cuts rest
    | none => .token head :: cuts tail
termination_by tokens.length
decreasing_by
  · exact search.span?_length _found
  · simp

/-- A text with the spans that are found marked. -/
def marked (tokens : List Token) : List Token := (search.cuts tokens).flatMap (Cut.marked element)

section Steps

variable {head : Token} {tokens body rest : List Token}

@[simp] theorem cuts_nil : search.cuts [] = [] := by
  rw [cuts]

theorem cuts_found (found : search.span? tokens = some (body, rest)) :
    search.cuts tokens = .span body :: search.cuts rest := by
  cases tokens with
  | nil =>
      have shorter := search.span?_length found
      exact absurd shorter (Nat.not_lt_zero _)
  | cons head tail =>
      rw [cuts]
      split
      · rename_i body' rest' again
        obtain ⟨rfl, rfl⟩ := Prod.mk.inj (Option.some.inj (found.symm.trans again))
        rfl
      · rename_i none
        rw [none] at found
        cases found

theorem cuts_cons (notFound : search.span? (head :: rest) = none) :
    search.cuts (head :: rest) = .token head :: search.cuts rest := by
  rw [cuts]
  split
  · rename_i body remainder found
    rw [notFound] at found
    cases found
  · rfl

@[simp] theorem marked_nil : search.marked [] = [] := by
  rw [marked, cuts_nil, List.flatMap_nil]

theorem marked_found (found : search.span? tokens = some (body, rest)) :
    search.marked tokens = .opens element :: (body ++ .closes element :: search.marked rest) := by
  simp [marked, search.cuts_found found, Cut.marked]

theorem marked_cons (notFound : search.span? (head :: rest) = none) :
    search.marked (head :: rest) = head :: search.marked rest := by
  simp [marked, search.cuts_cons notFound, Cut.marked]

end Steps

end Search

/-! ## Code and bold text -/

/-- The code span that a text begins with, and what follows it. -/
def codeTokens? : List Token → Option (List Token × List Token)
  | .letter '`' :: .letter '`' :: rest => someTokensUpToTwo '`' rest
  | .letter '`' :: rest => someTokensUpToOne '`' rest
  | _ => none

/-- The bold span that a text begins with, and what follows it. -/
def boldTokens? : List Token → Option (List Token × List Token)
  | .letter '*' :: .letter '*' :: rest => someTokensUpToTwo '*' rest
  | _ => none

section Found

variable {mark : Char} {tokens body rest : List Token}

theorem tokensUpToTwo_eq (found : tokensUpToTwo mark tokens = some (body, rest)) :
    tokens = body ++ .letter mark :: .letter mark :: rest := by
  induction tokens generalizing body rest with
  | nil => cases found
  | cons first tail inductionHypothesis =>
      cases tail with
      | nil => cases found
      | cons second more =>
          rw [tokensUpToTwo] at found
          split at found
          · rename_i marks
            cases found
            rw [marks.1, marks.2, List.nil_append]
          · split at found
            · cases found
            · obtain ⟨⟨inner, remainder⟩, innerFound, pair⟩ := Option.map_eq_some_iff.mp found
              cases pair
              exact congrArg (first :: ·) (inductionHypothesis innerFound)

theorem someTokensUpToTwo_eq (found : someTokensUpToTwo mark tokens = some (body, rest)) :
    tokens = body ++ .letter mark :: .letter mark :: rest := by
  cases tokens with
  | nil => cases found
  | cons head tail =>
      rw [someTokensUpToTwo] at found
      split at found
      · cases found
      · obtain ⟨⟨inner, remainder⟩, innerFound, pair⟩ := Option.map_eq_some_iff.mp found
        cases pair
        exact congrArg (head :: ·) (tokensUpToTwo_eq innerFound)

theorem someTokensUpToOne_eq (found : someTokensUpToOne mark tokens = some (body, rest)) :
    tokens = body ++ .letter mark :: rest := by
  unfold someTokensUpToOne at found
  split at found
  · cases found
  · rename_i stop remainder dropped
    simp only at found
    split at found
    · cases found
    · cases found
      obtain rfl := eq_of_dropWhile_ne dropped
      rw [← dropped]
      exact List.takeWhile_append_dropWhile.symm

theorem codeTokens?_eq (found : codeTokens? tokens = some (body, rest)) :
    ∃ delimiter ∈ Element.code.delimiters,
      tokens = delimiter.map .letter ++ (body ++ (delimiter.map .letter ++ rest)) := by
  unfold codeTokens? at found
  split at found
  · rw [someTokensUpToTwo_eq found]
    exact ⟨['`', '`'], by simp [Element.delimiters], by simp⟩
  · rw [someTokensUpToOne_eq found]
    exact ⟨['`'], by simp [Element.delimiters], by simp⟩
  · cases found

theorem boldTokens?_eq (found : boldTokens? tokens = some (body, rest)) :
    ∃ delimiter ∈ Element.bold.delimiters,
      tokens = delimiter.map .letter ++ (body ++ (delimiter.map .letter ++ rest)) := by
  unfold boldTokens? at found
  split at found
  · rw [someTokensUpToTwo_eq found]
    exact ⟨['*', '*'], by simp [Element.delimiters], by simp⟩
  · cases found

end Found

def codeSearch : Search .code := ⟨codeTokens?, codeTokens?_eq⟩

def boldSearch : Search .bold := ⟨boldTokens?, boldTokens?_eq⟩

/-! ## Marking characters -/

/-- Characters are searched and marked as a search for spans says of the tokens that they spell. -/
structure Follows {element : Element} (search : Search element) (delimiter : Char)
    (find : List Char → Option (List Char × List Char)) (mark : List Char → List Char) : Prop where
  decides : Decides delimiter
  find_spell : ∀ tokens, find (spell tokens) = (search.span? tokens).map spellBoth
  mark_nil : mark [] = []
  mark_found : ∀ {text body rest}, find text = some (body, rest) →
    mark text =
      (Token.opens element).spelling ++ body ++ (Token.closes element).spelling ++ mark rest
  mark_cons : ∀ {head tail}, find (head :: tail) = none → mark (head :: tail) = head :: mark tail
  mark_append : ∀ {first}, delimiter ∉ first → ∀ second,
    mark (first ++ second) = first ++ mark second

/-- Marking the spelling of a text is spelling the marked text. -/
theorem Follows.mark_spell
    {element : Element} {search : Search element} {delimiter : Char}
    {find : List Char → Option (List Char × List Char)} {mark : List Char → List Char}
    (follows : Follows search delimiter find mark) (tokens : List Token) :
    mark (spell tokens) = spell (search.marked tokens) := by
  induction tokens using Search.cuts.induct search with
  | case1 => rw [search.marked_nil, spell_nil, follows.mark_nil]
  | case2 head tail body rest found inductionHypothesis =>
      have spelled : find (spell (head :: tail)) = some (spell body, spell rest) := by
        rw [follows.find_spell, found]
        rfl
      rw [follows.mark_found spelled, inductionHypothesis, search.marked_found found]
      simp only [spell_cons, spell_append, List.append_assoc]
  | case3 head tail notFound inductionHypothesis =>
      rw [search.marked_cons notFound, spell_cons, spell_cons, ← inductionHypothesis]
      by_cases isDelimiter : head = .letter delimiter
      · -- the delimiter is written as it is, and no span begins with it here
        have spelled : find (delimiter :: spell tail) = none := by
          have searched := follows.find_spell (head :: tail)
          rw [notFound, isDelimiter, spell_cons, spelling_letter follows.decides] at searched
          exact searched
        rw [isDelimiter, spelling_letter follows.decides]
        exact follows.mark_cons spelled
      · exact follows.mark_append (notMem_spelling follows.decides isDelimiter) (spell tail)

theorem codeSpan?_spell (tokens : List Token) :
    codeSpan? (spell tokens) = (codeTokens? tokens).map spellBoth := by
  have decides : Decides '`' := Or.inl rfl
  rcases spell_cases decides tokens with ⟨rest, rfl, spelled⟩ | ⟨notFirst, spelledNotFirst⟩
  · rw [spelled]
    rcases spell_cases decides rest with ⟨further, rfl, again⟩ | ⟨alone, spelledAlone⟩
    · rw [again]
      exact someUpToTwo_spell decides (by decide) further
    · have single : codeTokens? (.letter '`' :: rest) = someTokensUpToOne '`' rest := by
        unfold codeTokens?
        split <;> simp_all
      have spelledSingle : codeSpan? ('`' :: spell rest) = someUpToOne '`' (spell rest) := by
        unfold codeSpan?
        split <;> simp_all
      rw [single, spelledSingle, someUpToOne_spell decides]
  · have noCode : codeTokens? tokens = none := by
      unfold codeTokens?
      split <;> simp_all
    rw [codeSpan?_of_head?_ne spelledNotFirst, noCode]
    rfl

theorem boldSpan?_spell (tokens : List Token) :
    boldSpan? (spell tokens) = (boldTokens? tokens).map spellBoth := by
  have decides : Decides '*' := Or.inr (Or.inl rfl)
  rcases spell_cases decides tokens with ⟨rest, rfl, spelled⟩ | ⟨notFirst, spelledNotFirst⟩
  · rw [spelled]
    rcases spell_cases decides rest with ⟨further, rfl, again⟩ | ⟨alone, spelledAlone⟩
    · rw [again]
      exact someUpToTwo_spell decides (by decide) further
    · have noBold : boldTokens? (.letter '*' :: rest) = none := by
        unfold boldTokens?
        split <;> simp_all
      have spelledNoBold : boldSpan? ('*' :: spell rest) = none := by
        unfold boldSpan?
        split <;> simp_all
      rw [noBold, spelledNoBold]
      rfl
  · have noBold : boldTokens? tokens = none := by
      unfold boldTokens?
      split <;> simp_all
    rw [boldSpan?_of_head?_ne spelledNotFirst, noBold]
    rfl

theorem markCode_follows : Follows codeSearch '`' codeSpan? markCode where
  decides := Or.inl rfl
  find_spell := codeSpan?_spell
  mark_nil := by rw [markCode]
  mark_found := markCode_found
  mark_cons := markCode_cons
  mark_append := markCode_append

theorem markBold_follows : Follows boldSearch '*' boldSpan? markBold where
  decides := Or.inr (Or.inl rfl)
  find_spell := boldSpan?_spell
  mark_nil := by rw [markBold]
  mark_found := markBold_found
  mark_cons := markBold_cons
  mark_append := markBold_append

/-! ## Inline markup -/

/-- A text with its code spans marked. -/
def coded (text : List Char) : List Token := codeSearch.marked (text.map .letter)

/-- A text with its code spans and then its bold spans marked. -/
def inlined (text : List Char) : List Token := boldSearch.marked (coded text)

/-- Inline markup spells the text that is marked. -/
theorem renderInline_eq (text : List Char) : renderInline text = spell (inlined text) := by
  rw [renderInline, ← spell_letters, markCode_follows.mark_spell, markBold_follows.mark_spell]
  rfl

/-- Inline markup is read back as the text that is marked. -/
theorem tokens?_renderInline (text : List Char) :
    tokens? (renderInline text) = some (inlined text) := by
  rw [renderInline_eq, tokens?_spell]

end ApiDocs.Markup
