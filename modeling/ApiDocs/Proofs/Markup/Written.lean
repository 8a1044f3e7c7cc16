import ApiDocs.Proofs.Markup.Tags

/-!
# How tags are written

What the reader of markup accepts is written by a grammar: plain text without angle brackets, and
tags between them, each with a name, and each value of an attribute in quotes and without quotes or
angle brackets of its own.
-/

namespace ApiDocs.Markup

open ApiDocs.Text

/-! ## The grammar -/

/-- The characters of a name or a key. -/
def IsWord (letters : List Char) : Prop :=
  letters ≠ [] ∧ ∀ letter ∈ letters, Reading.isNameCharacter letter = true

/-- A tag as it is written up to its closing bracket: its name, and its attributes after blanks,
with a value in quotes or with none. -/
inductive Opened : Tag → List Char → Prop where
  | name {letters : List Char} :
      IsWord letters → Opened ⟨String.ofList letters, []⟩ ('<' :: letters)
  | bare {tag : Tag} {text key : List Char} :
      Opened tag text → IsWord key → Opened (tag.add key []) (text ++ ' ' :: key)
  | valued {tag : Tag} {text key value : List Char} :
      Opened tag text → IsWord key → (∀ character ∈ value, IsQuotable character) →
      Opened (tag.add key value) (text ++ (' ' :: key ++ '=' :: '"' :: value ++ ['"']))

/-- A text that is written as plain text and tags. -/
inductive Written : List Char → List Tag → Prop where
  | nil : Written [] []
  | plain {character : Char} {rest : List Char} {tags : List Tag} :
      ¬ IsAngle character → Written rest tags → Written (character :: rest) tags
  | tag {tag : Tag} {text rest : List Char} {tags : List Tag} :
      Opened tag text → Written rest tags → Written (text ++ '>' :: rest) (tag :: tags)

/-- The values of attributes of a tag that is written can stand in quotes. -/
theorem Opened.quotable {tag : Tag} {text : List Char} (opened : Opened tag text) :
    ∀ pair ∈ tag.attributes, ∀ character ∈ pair.2.toList, IsQuotable character := by
  induction opened with
  | name _ => exact List.forall_mem_nil _
  | bare _ _ inductionHypothesis =>
      refine List.forall_mem_append.mpr ⟨inductionHypothesis, List.forall_mem_singleton.mpr ?_⟩
      exact List.forall_mem_nil _
  | valued _ _ quotable inductionHypothesis =>
      refine List.forall_mem_append.mpr ⟨inductionHypothesis, List.forall_mem_singleton.mpr ?_⟩
      rw [String.toList_ofList]
      exact quotable

theorem Written.quotable {text : List Char} {tags : List Tag} (written : Written text tags) :
    ∀ tag ∈ tags, ∀ pair ∈ tag.attributes, ∀ character ∈ pair.2.toList,
      IsQuotable character := by
  induction written with
  | nil => exact List.forall_mem_nil _
  | plain _ _ inductionHypothesis => exact inductionHypothesis
  | tag opened _ inductionHypothesis =>
      exact List.forall_mem_cons.mpr ⟨opened.quotable, inductionHypothesis⟩

/-! ## The reader -/

theorem IsWord.singleton {letter : Char} (isLetter : Reading.isNameCharacter letter = true) :
    IsWord [letter] :=
  ⟨List.cons_ne_nil _ _, List.forall_mem_singleton.mpr isLetter⟩

theorem IsWord.concat {letters : List Char} {letter : Char}
    (isWord : IsWord letters) (isLetter : Reading.isNameCharacter letter = true) :
    IsWord (letters ++ [letter]) :=
  ⟨List.append_ne_nil_of_left_ne_nil isWord.1 _,
    List.forall_mem_append.mpr ⟨isWord.2, List.forall_mem_singleton.mpr isLetter⟩⟩

/-- What a reader has read of a tag when it stands at a part of it. -/
inductive Standing : Reading → List Char → Prop where
  | outside : Standing .outside []
  | opening : Standing .opening ['<']
  | name {letters : List Char} : IsWord letters → Standing (.name letters) ('<' :: letters)
  | gap {tag : Tag} {text : List Char} : Opened tag text → Standing (.gap tag) (text ++ [' '])
  | key {tag : Tag} {text letters : List Char} :
      Opened tag text → IsWord letters → Standing (.key tag letters) (text ++ ' ' :: letters)
  | equals {tag : Tag} {text letters : List Char} :
      Opened tag text → IsWord letters →
      Standing (.equals tag letters) (text ++ (' ' :: letters ++ ['=']))
  | value {tag : Tag} {text letters held : List Char} :
      Opened tag text → IsWord letters → (∀ character ∈ held, IsQuotable character) →
      Standing (.value tag letters held) (text ++ (' ' :: letters ++ '=' :: '"' :: held))
  | closed {tag : Tag} {text : List Char} : Opened tag text → Standing (.closed tag) text

/-- What one character can do to a reader: it breaks it, ends a tag, is passed over between tags,
or belongs to a tag. -/
inductive Step (reading : Reading) (consumed : List Char) (character : Char) : Prop where
  | breaks (broken : (reading.next character).1 = .broken)
  | ends (tag : Tag) (text : List Char) (opened : Opened tag text)
      (closes : reading.next character = (.outside, [tag]))
      (whole : consumed ++ [character] = text ++ ['>'])
  | passes (nothing : consumed = []) (plain : ¬ IsAngle character)
      (stays : reading.next character = (.outside, []))
  | continues (noTag : (reading.next character).2 = [])
      (standing : Standing (reading.next character).1 (consumed ++ [character]))

namespace Step

variable {reading after : Reading} {consumed : List Char} {character : Char}

theorem of_broken (next : reading.next character = (.broken, [])) :
    Step reading consumed character :=
  .breaks (congrArg Prod.fst next)

theorem of_standing (next : reading.next character = (after, []))
    (standing : Standing after (consumed ++ [character])) :
    Step reading consumed character := by
  refine .continues (congrArg Prod.snd next) ?_
  rw [next]
  exact standing

end Step

theorem Standing.step {reading : Reading} {consumed : List Char}
    (standing : Standing reading consumed) (character : Char) :
    Step reading consumed character := by
  -- one case a state of the reader, in each the characters that it tells apart
  cases standing with
  | outside =>
      by_cases opens : character = '<'
      · subst opens
        exact .of_standing rfl .opening
      · by_cases closes : character = '>'
        · subst closes
          exact .of_broken rfl
        · refine .passes rfl (not_or.mpr ⟨opens, closes⟩) ?_
          rw [Reading.next, if_neg opens, if_neg closes]
  | opening =>
      by_cases isLetter : Reading.isNameCharacter character = true
      · exact .of_standing (if_pos isLetter) (.name (.singleton isLetter))
      · exact .of_broken (if_neg isLetter)
  | @name letters isWord =>
      have opened := Opened.name isWord
      by_cases closes : character = '>'
      · subst closes
        exact .ends _ _ opened rfl rfl
      · by_cases blank : character = ' '
        · subst blank
          exact .of_standing rfl (.gap opened)
        · by_cases isLetter : Reading.isNameCharacter character = true
          · have further : (Reading.name letters).next character =
                (.name (letters ++ [character]), []) := by
              rw [Reading.next, if_neg closes, if_neg blank, if_pos isLetter]
            exact .of_standing further (.name (isWord.concat isLetter))
          · apply Step.of_broken
            rw [Reading.next, if_neg closes, if_neg blank, if_neg isLetter]
  | @gap tag text opened =>
      by_cases isLetter : Reading.isNameCharacter character = true
      · refine .of_standing (if_pos isLetter) ?_
        rw [List.append_assoc]
        exact .key opened (.singleton isLetter)
      · exact .of_broken (if_neg isLetter)
  | @key tag text letters opened isWord =>
      by_cases equals : character = '='
      · subst equals
        refine .of_standing rfl ?_
        rw [List.append_assoc]
        exact .equals opened isWord
      · by_cases closes : character = '>'
        · subst closes
          exact .ends _ _ (.bare opened isWord) rfl rfl
        · by_cases isLetter : Reading.isNameCharacter character = true
          · have further : (Reading.key tag letters).next character =
                (.key tag (letters ++ [character]), []) := by
              rw [Reading.next, if_neg equals, if_neg closes, if_pos isLetter]
            refine .of_standing further ?_
            rw [List.append_assoc]
            exact .key opened (isWord.concat isLetter)
          · apply Step.of_broken
            rw [Reading.next, if_neg equals, if_neg closes, if_neg isLetter]
  | @equals tag text letters opened isWord =>
      by_cases quote : character = '"'
      · subst quote
        have standing := Standing.value opened isWord (List.forall_mem_nil _)
        refine .of_standing rfl ?_
        rw [List.append_assoc, List.append_assoc]
        exact standing
      · exact .of_broken (if_neg quote)
  | @value tag text letters held opened isWord quotable =>
      by_cases quote : character = '"'
      · subst quote
        have standing := Standing.closed (.valued opened isWord quotable)
        refine .of_standing rfl ?_
        rw [List.append_assoc]
        exact standing
      · by_cases isAngle : IsAngle character
        · apply Step.of_broken
          rw [Reading.next, if_neg quote, if_pos isAngle]
        · have further : (Reading.value tag letters held).next character =
              (.value tag letters (held ++ [character]), []) := by
            rw [Reading.next, if_neg quote, if_neg isAngle]
          have quotableToo : ∀ other ∈ held ++ [character], IsQuotable other :=
            List.forall_mem_append.mpr ⟨quotable, List.forall_mem_singleton.mpr ⟨isAngle, quote⟩⟩
          refine .of_standing further ?_
          rw [List.append_assoc, List.append_assoc]
          exact .value opened isWord quotableToo
  | closed opened =>
      by_cases closes : character = '>'
      · subst closes
        exact .ends _ _ opened rfl rfl
      · by_cases blank : character = ' '
        · subst blank
          exact .of_standing rfl (.gap opened)
        · apply Step.of_broken
          rw [Reading.next, if_neg closes, if_neg blank]

theorem Reading.run_broken (text : List Char) : (Reading.broken.run text).1 = .broken := by
  induction text with
  | nil => rfl
  | cons head tail inductionHypothesis => exact inductionHypothesis

/-- From wherever a reader stands, what it reads completes a written text. -/
theorem Standing.written
    {reading : Reading} {consumed text : List Char} {tags : List Tag}
    (standing : Standing reading consumed)
    (runs : reading.run text = (.outside, tags)) :
    Written (consumed ++ text) tags := by
  induction text generalizing reading consumed tags with
  | nil =>
      cases standing <;> cases runs
      exact .nil
  | cons head tail inductionHypothesis =>
      rw [Reading.run] at runs
      have ends := congrArg Prod.fst runs
      have read := congrArg Prod.snd runs
      simp only at ends read
      -- a broken reader stays broken, so it does not end outside of tags
      cases standing.step head with
      | breaks broken =>
          rw [broken, Reading.run_broken] at ends
          cases ends
      | ends tag opened isOpened closes whole =>
          rw [closes] at ends read
          have rest := inductionHypothesis Standing.outside (Prod.ext ends rfl)
          rw [← read, List.append_cons, whole, List.append_assoc]
          exact .tag isOpened rest
      | passes nothing plain stays =>
          rw [stays] at ends read
          have rest := inductionHypothesis Standing.outside (Prod.ext ends rfl)
          rw [← read, nothing]
          exact .plain plain rest
      | continues noTag further =>
          have rest := inductionHypothesis further (Prod.ext ends rfl)
          rw [← read, noTag, List.append_cons]
          exact rest

/-- What is read as tags is written as these. -/
theorem Reads.written {text : List Char} {tags : List Tag} (reads : Reads text tags) :
    Written text tags :=
  Standing.outside.written reads

end ApiDocs.Markup
