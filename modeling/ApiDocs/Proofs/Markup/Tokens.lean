import ApiDocs.Proofs.Markup.Spans

/-!
# Tokens of inline markup

Inline markup is written letter by letter, with tags in between: reading it back gives the letters
and the tags, and nothing else.  On that level a text is first cut at its code spans and then at
the bold spans of what results, and rendering does the same on the level of characters: no
delimiter is looked for inside a tag or an entity.
-/

namespace ApiDocs.Markup

open ApiDocs.Text

/-! ## Tokens -/

/-- The elements of inline markup. -/
inductive Element where
  | code
  | bold
deriving DecidableEq, Repr

def Element.name : Element → List Char
  | code => "code".toList
  | bold => "strong".toList

/-- What inline markup consists of: tags and the characters of a text. -/
inductive Token where
  | opens (element : Element)
  | closes (element : Element)
  | letter (character : Char)
deriving DecidableEq, Repr

/-- A token as it is written. -/
def Token.spelling : Token → List Char
  | opens element => '<' :: element.name ++ ['>']
  | closes element => '<' :: '/' :: element.name ++ ['>']
  | letter character => escapeMarkupCharacter character

def spell (tokens : List Token) : List Char := tokens.flatMap Token.spelling

@[simp] theorem spell_nil : spell [] = [] := rfl

@[simp] theorem spell_cons (token : Token) (tokens : List Token) :
    spell (token :: tokens) = token.spelling ++ spell tokens :=
  List.flatMap_cons

@[simp] theorem spell_append (first second : List Token) :
    spell (first ++ second) = spell first ++ spell second :=
  List.flatMap_append

theorem spell_letters (text : List Char) : spell (text.map .letter) = escapeMarkup text := by
  rw [spell, List.flatMap_map]
  rfl

/-! ## Reading tokens -/

/-- A character that is not written as it is. -/
def IsSpecial (character : Char) : Prop :=
  character = '<' ∨ character = '>' ∨ character = '&'

instance (character : Char) : Decidable (IsSpecial character) :=
  inferInstanceAs (Decidable (_ ∨ _))

/-- The tokens of a text in which each `<` begins one of the four tags, each `&` begins the entity
of one of the three characters that are escaped, and each `>` ends a tag. -/
def tokens? : List Char → Option (List Token)
  | '<' :: 'c' :: 'o' :: 'd' :: 'e' :: '>' :: rest =>
    (tokens? rest).map (Token.opens .code :: ·)
  | '<' :: '/' :: 'c' :: 'o' :: 'd' :: 'e' :: '>' :: rest =>
    (tokens? rest).map (Token.closes .code :: ·)
  | '<' :: 's' :: 't' :: 'r' :: 'o' :: 'n' :: 'g' :: '>' :: rest =>
    (tokens? rest).map (Token.opens .bold :: ·)
  | '<' :: '/' :: 's' :: 't' :: 'r' :: 'o' :: 'n' :: 'g' :: '>' :: rest =>
    (tokens? rest).map (Token.closes .bold :: ·)
  | '&' :: 'a' :: 'm' :: 'p' :: ';' :: rest => (tokens? rest).map (Token.letter '&' :: ·)
  | '&' :: 'l' :: 't' :: ';' :: rest => (tokens? rest).map (Token.letter '<' :: ·)
  | '&' :: 'g' :: 't' :: ';' :: rest => (tokens? rest).map (Token.letter '>' :: ·)
  | head :: rest =>
    if IsSpecial head then none else (tokens? rest).map (Token.letter head :: ·)
  | [] => some []

section Characters

variable {character : Char}

theorem tokens?_cons (plain : ¬ IsSpecial character) (rest : List Char) :
    tokens? (character :: rest) = (tokens? rest).map (Token.letter character :: ·) := by
  conv => lhs; unfold tokens?
  split <;> simp_all [IsSpecial]

theorem escapeMarkupCharacter_of_plain (plain : ¬ IsSpecial character) :
    escapeMarkupCharacter character = [character] := by
  unfold escapeMarkupCharacter
  split <;> simp_all [IsSpecial]

end Characters

theorem tokens?_spelling (token : Token) (rest : List Char) :
    tokens? (token.spelling ++ rest) = (tokens? rest).map (token :: ·) := by
  cases token with
  | opens element => cases element <;> rfl
  | closes element => cases element <;> rfl
  | letter character =>
      by_cases special : IsSpecial character
      · rcases special with rfl | rfl | rfl <;> rfl
      · rw [Token.spelling, escapeMarkupCharacter_of_plain special]
        exact tokens?_cons special rest

/-- What was spelled is read back. -/
theorem tokens?_spell (tokens : List Token) : tokens? (spell tokens) = some tokens := by
  induction tokens with
  | nil => rfl
  | cons token tokens inductionHypothesis =>
      rw [spell_cons, tokens?_spelling, inductionHypothesis]
      rfl

/-! ## Where delimiters stand -/

/-- A character that decides where spans are: a delimiter or the end of a line. -/
def Decides (character : Char) : Prop :=
  character = '`' ∨ character = '*' ∨ character = '\n'

section Deciding

variable {character : Char} (decides : Decides character)
include decides

theorem spelling_letter : (Token.letter character).spelling = [character] := by
  rcases decides with rfl | rfl | rfl <;> rfl

/-- A character that decides where spans are stands in the spelling of no other token. -/
theorem notMem_spelling {token : Token} (isElse : token ≠ .letter character) :
    character ∉ token.spelling := by
  cases token with
  | opens element => rcases decides with rfl | rfl | rfl <;> cases element <;> decide
  | closes element => rcases decides with rfl | rfl | rfl <;> cases element <;> decide
  | letter other =>
      by_cases special : IsSpecial other
      · rcases decides with rfl | rfl | rfl <;> rcases special with rfl | rfl | rfl <;> decide
      · rw [Token.spelling, escapeMarkupCharacter_of_plain special, List.mem_singleton]
        exact fun same => isElse (by rw [same])

end Deciding

theorem exists_spelling_cons (token : Token) : ∃ head tail, token.spelling = head :: tail := by
  apply List.exists_cons_of_ne_nil
  cases token with
  | opens element => exact List.cons_ne_nil _ _
  | closes element => exact List.cons_ne_nil _ _
  | letter character =>
      by_cases special : IsSpecial character
      · rcases special with rfl | rfl | rfl <;> decide
      · rw [Token.spelling, escapeMarkupCharacter_of_plain special]
        exact List.cons_ne_nil _ _

/-! ## Searching for delimiters -/

/-- The tokens up to the next two delimiters in a row, and what follows them; a line feed ends the
search. -/
def tokensUpToTwo (mark : Char) : List Token → Option (List Token × List Token)
  | first :: second :: rest =>
    if first = .letter mark ∧ second = .letter mark then some ([], rest)
    else if first = .letter '\n' then none
    else (tokensUpToTwo mark (second :: rest)).map fun found => (first :: found.1, found.2)
  | _ => none

/-- As `tokensUpToTwo`, with at least one token before the delimiters. -/
def someTokensUpToTwo (mark : Char) : List Token → Option (List Token × List Token)
  | [] => none
  | head :: rest =>
    if head = .letter '\n' then none
    else (tokensUpToTwo mark rest).map fun found => (head :: found.1, found.2)

/-- The tokens up to the next delimiter, at least one, and what follows it. -/
def someTokensUpToOne (mark : Char) (tokens : List Token) : Option (List Token × List Token) :=
  match tokens.dropWhile (· ≠ .letter mark) with
  | [] => none
  | _ :: rest =>
    let body := tokens.takeWhile (· ≠ .letter mark)
    if body.isEmpty then none else some (body, rest)

/-- The search for a delimiter stops at one. -/
theorem eq_of_dropWhile_ne {mark : Char} {tokens rest : List Token} {stop : Token}
    (dropped : tokens.dropWhile (· ≠ .letter mark) = stop :: rest) : stop = .letter mark := by
  have nonempty : tokens.dropWhile (· ≠ .letter mark) ≠ [] := by
    rw [dropped]
    exact List.cons_ne_nil stop rest
  have stops := List.head_dropWhile_not (· ≠ Token.letter mark) nonempty
  simp only [dropped, List.head_cons] at stops
  exact Decidable.not_not.mp (of_decide_eq_false stops)

/-- Two sequences of tokens as they are written. -/
def spellBoth (pair : List Token × List Token) : List Char × List Char :=
  (spell pair.1, spell pair.2)

section Passing

variable {mark : Char}

/-- The search passes over what holds neither a delimiter nor a line feed. -/
theorem upToTwo_append {first : List Char}
    (noMark : mark ∉ first) (noLineFeed : '\n' ∉ first) (rest : List Char) :
    upToTwo mark (first ++ rest) =
      (upToTwo mark rest).map fun found => (first ++ found.1, found.2) := by
  induction first with
  | nil => exact (Option.map_id' : Option.map (fun found => found) (upToTwo mark rest) = _).symm
  | cons head tail inductionHypothesis =>
      rw [List.mem_cons, not_or] at noMark noLineFeed
      have further : upToTwo mark (head :: (tail ++ rest)) =
          (upToTwo mark (tail ++ rest)).map fun found => (head :: found.1, found.2) := by
        cases tail ++ rest with
        | nil => rfl
        | cons second more =>
            have notBoth : ¬ (head = mark ∧ second = mark) := fun both => noMark.1 both.1.symm
            rw [upToTwo, if_neg notBoth, if_neg (Ne.symm noLineFeed.1)]
      rw [List.cons_append, further, inductionHypothesis noMark.2 noLineFeed.2, Option.map_map]
      rfl

theorem tokensUpToTwo_cons {first : Token}
    (noMark : first ≠ .letter mark) (noLineFeed : first ≠ .letter '\n') (tokens : List Token) :
    tokensUpToTwo mark (first :: tokens) =
      (tokensUpToTwo mark tokens).map fun found => (first :: found.1, found.2) := by
  cases tokens with
  | nil => rfl
  | cons second rest => rw [tokensUpToTwo, if_neg (fun both => noMark both.1), if_neg noLineFeed]

/-- The end of a line ends the search. -/
theorem upToTwo_lineFeed (isElse : mark ≠ '\n') (rest : List Char) :
    upToTwo mark ('\n' :: rest) = none := by
  cases rest with
  | nil => rfl
  | cons second more => rw [upToTwo, if_neg (fun both => isElse both.1.symm), if_pos rfl]

theorem tokensUpToTwo_lineFeed (isElse : mark ≠ '\n') (tokens : List Token) :
    tokensUpToTwo mark (.letter '\n' :: tokens) = none := by
  cases tokens with
  | nil => rfl
  | cons second rest =>
      have notMark : Token.letter '\n' ≠ .letter mark :=
        fun same => isElse (Token.letter.inj same).symm
      rw [tokensUpToTwo, if_neg (fun both => notMark both.1), if_pos rfl]

/-- A delimiter that stands alone is passed over. -/
theorem upToTwo_alone {text : List Char} (isElse : mark ≠ '\n')
    (alone : text.head? ≠ some mark) :
    upToTwo mark (mark :: text) =
      (upToTwo mark text).map fun found => (mark :: found.1, found.2) := by
  cases text with
  | nil => rfl
  | cons head tail =>
      have different : head ≠ mark := fun same => alone (congrArg some same)
      rw [upToTwo, if_neg (fun both => different both.2), if_neg isElse]

theorem tokensUpToTwo_alone {tokens : List Token} (isElse : mark ≠ '\n')
    (alone : tokens.head? ≠ some (.letter mark)) :
    tokensUpToTwo mark (.letter mark :: tokens) =
      (tokensUpToTwo mark tokens).map fun found => (.letter mark :: found.1, found.2) := by
  cases tokens with
  | nil => rfl
  | cons second rest =>
      have different : second ≠ .letter mark := fun same => alone (congrArg some same)
      have noLineFeed : Token.letter mark ≠ .letter '\n' :=
        fun same => isElse (Token.letter.inj same)
      rw [tokensUpToTwo, if_neg (fun both => different both.2), if_neg noLineFeed]

end Passing

section Spelling

variable {mark : Char} (decides : Decides mark)
include decides

theorem head_spelling_ne {token : Token} (isElse : token ≠ .letter mark) {head : Char}
    {tail : List Char} (spelled : token.spelling = head :: tail) :
    head ≠ mark := by
  have absent := notMem_spelling decides isElse
  rw [spelled] at absent
  exact fun same => absent (same ▸ List.mem_cons_self)

/-- A delimiter is the first character of a spelled text just when it is the first token. -/
theorem spell_cases (tokens : List Token) :
    (∃ rest, tokens = .letter mark :: rest ∧ spell tokens = mark :: spell rest) ∨
      (tokens.head? ≠ some (.letter mark) ∧ (spell tokens).head? ≠ some mark) := by
  cases tokens with
  | nil => exact Or.inr ⟨Option.some_ne_none _ ∘ Eq.symm, Option.some_ne_none _ ∘ Eq.symm⟩
  | cons first rest =>
      by_cases isMark : first = .letter mark
      · subst isMark
        exact Or.inl ⟨rest, rfl, by rw [spell_cons, spelling_letter decides, List.singleton_append]⟩
      · obtain ⟨head, tail, spelled⟩ := exists_spelling_cons first
        have headElse := head_spelling_ne decides isMark spelled
        refine Or.inr ⟨fun same => isMark (Option.some.inj same), ?_⟩
        rw [spell_cons, spelled, List.cons_append]
        exact fun same => headElse (Option.some.inj same)

/-- Two delimiters are found among the tokens where they are found in the text. -/
theorem upToTwo_spell (isElse : mark ≠ '\n') (tokens : List Token) :
    upToTwo mark (spell tokens) = (tokensUpToTwo mark tokens).map spellBoth := by
  induction tokens with
  | nil => rfl
  | cons first tokens inductionHypothesis =>
      by_cases isLineFeed : first = .letter '\n'
      · subst isLineFeed
        rw [tokensUpToTwo_lineFeed isElse]
        exact upToTwo_lineFeed isElse (spell tokens)
      · by_cases isMark : first = .letter mark
        · subst isMark
          rw [spell_cons, spelling_letter decides, List.singleton_append]
          rcases spell_cases decides tokens with ⟨rest, rfl, spelled⟩ | ⟨alone, spelledAlone⟩
          · rw [spelled, upToTwo, if_pos ⟨rfl, rfl⟩, tokensUpToTwo, if_pos ⟨rfl, rfl⟩]
            rfl
          · rw [upToTwo_alone isElse spelledAlone, inductionHypothesis,
              tokensUpToTwo_alone isElse alone, Option.map_map, Option.map_map]
            simp only [Function.comp_def, spellBoth, spell_cons, spelling_letter decides,
              List.singleton_append]
        · rw [spell_cons, upToTwo_append (notMem_spelling decides isMark)
            (notMem_spelling (Or.inr (Or.inr rfl)) isLineFeed), inductionHypothesis,
            tokensUpToTwo_cons isMark isLineFeed, Option.map_map, Option.map_map]
          rfl

theorem someUpToTwo_spell (isElse : mark ≠ '\n') (tokens : List Token) :
    someUpToTwo mark (spell tokens) = (someTokensUpToTwo mark tokens).map spellBoth := by
  cases tokens with
  | nil => rfl
  | cons first rest =>
      by_cases isLineFeed : first = .letter '\n'
      · subst isLineFeed
        rfl
      · obtain ⟨head, tail, spelled⟩ := exists_spelling_cons first
        have feedDecides : Decides '\n' := Or.inr (Or.inr rfl)
        have noLineFeed := head_spelling_ne feedDecides isLineFeed spelled
        have passes : upToTwo mark (tail ++ spell rest) =
            (upToTwo mark (spell rest)).map fun found => (tail ++ found.1, found.2) := by
          by_cases isMark : first = .letter mark
          · rw [isMark, spelling_letter decides] at spelled
            rw [← (List.cons.inj spelled).2]
            exact (Option.map_id' : Option.map (fun found => found) _ = _).symm
          · have noMark := notMem_spelling decides isMark
            have noFeed := notMem_spelling feedDecides isLineFeed
            rw [spelled] at noMark noFeed
            exact upToTwo_append (fun member => noMark (List.mem_cons_of_mem head member))
              (fun member => noFeed (List.mem_cons_of_mem head member)) (spell rest)
        rw [spell_cons, spelled, List.cons_append, someUpToTwo, if_neg noLineFeed, passes,
          upToTwo_spell decides isElse, someTokensUpToTwo, if_neg isLineFeed, Option.map_map,
          Option.map_map, Option.map_map]
        simp only [Function.comp_def, spellBoth, spell_cons, spelled, List.cons_append]

theorem takeWhile_spell (tokens : List Token) :
    (spell tokens).takeWhile (· != mark) = spell (tokens.takeWhile (· ≠ .letter mark)) := by
  induction tokens with
  | nil => rfl
  | cons first tokens inductionHypothesis =>
      by_cases isMark : first = .letter mark
      · simp [isMark, spelling_letter decides]
      · have absent := notMem_spelling decides isMark
        have passes : ∀ character ∈ first.spelling, (character != mark) = true := by
          intro character member
          exact bne_iff_ne.mpr fun same => absent (same ▸ member)
        rw [spell_cons, List.takeWhile_append_of_pos passes, inductionHypothesis,
          List.takeWhile_cons_of_pos (by simpa using isMark), spell_cons]

theorem dropWhile_spell (tokens : List Token) :
    (spell tokens).dropWhile (· != mark) = spell (tokens.dropWhile (· ≠ .letter mark)) := by
  induction tokens with
  | nil => rfl
  | cons first tokens inductionHypothesis =>
      by_cases isMark : first = .letter mark
      · simp [isMark, spelling_letter decides]
      · have absent := notMem_spelling decides isMark
        have passes : ∀ character ∈ first.spelling, (character != mark) = true := by
          intro character member
          exact bne_iff_ne.mpr fun same => absent (same ▸ member)
        rw [spell_cons, List.dropWhile_append_of_pos passes, inductionHypothesis,
          List.dropWhile_cons_of_pos (by simpa using isMark)]

theorem someUpToOne_spell (tokens : List Token) :
    someUpToOne mark (spell tokens) = (someTokensUpToOne mark tokens).map spellBoth := by
  rw [someUpToOne, someTokensUpToOne, dropWhile_spell decides, takeWhile_spell decides]
  cases dropped : tokens.dropWhile (· ≠ .letter mark) with
  | nil => rfl
  | cons stop rest =>
      rw [eq_of_dropWhile_ne dropped, spell_cons, spelling_letter decides, List.singleton_append]
      cases kept : tokens.takeWhile (· ≠ .letter mark) with
      | nil => rfl
      | cons first body =>
          obtain ⟨head, tail, spelled⟩ := exists_spelling_cons first
          simp [spellBoth, spelled]

end Spelling

end ApiDocs.Markup
