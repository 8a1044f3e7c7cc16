import ApiDocs.Proofs.Text.Escaping

/-!
# Tags

A strict reader of markup.  It goes through a text character by character and collects the tags
with their attributes; a text that it reads has angle brackets only around tags, and quotes all
attribute values.  What pieces of a text are read as, the whole is read as.
-/

namespace ApiDocs.Markup

open ApiDocs.Text

/-! ## Reading tags -/

/-- A tag as it is written: its name, with the slash of a closing tag, and its attributes. -/
structure Tag where
  name : String
  attributes : List (String × String)
deriving DecidableEq, Repr

def Tag.add (tag : Tag) (key value : List Char) : Tag :=
  { tag with attributes := tag.attributes ++ [(String.ofList key, String.ofList value)] }

/-- Where a reader of markup stands: between tags, at some part of a tag, or behind something that
it does not read. -/
inductive Reading where
  | outside
  | opening
  | name (letters : List Char)
  | gap (tag : Tag)
  | key (tag : Tag) (letters : List Char)
  | equals (tag : Tag) (key : List Char)
  | value (tag : Tag) (key letters : List Char)
  | closed (tag : Tag)
  | broken
deriving DecidableEq, Repr

namespace Reading

/-- The characters that a name or a key is made of. -/
def isNameCharacter (character : Char) : Bool :=
  character.isAlphanum || character == '/' || character == '!' || character == '-'

/-- The reader after one character, with the tags that end there. -/
def next : Reading → Char → Reading × List Tag
  | outside, character =>
    if character = '<' then (opening, []) else if character = '>' then (broken, [])
    else (outside, [])
  | opening, character =>
    if isNameCharacter character then (name [character], []) else (broken, [])
  | name letters, character =>
    if character = '>' then (outside, [⟨String.ofList letters, []⟩])
    else if character = ' ' then (gap ⟨String.ofList letters, []⟩, [])
    else if isNameCharacter character then (name (letters ++ [character]), [])
    else (broken, [])
  | gap tag, character =>
    if isNameCharacter character then (key tag [character], []) else (broken, [])
  | key tag letters, character =>
    if character = '=' then (equals tag letters, [])
    else if character = '>' then (outside, [tag.add letters []])
    else if isNameCharacter character then (key tag (letters ++ [character]), [])
    else (broken, [])
  | equals tag letters, character =>
    if character = '"' then (value tag letters [], []) else (broken, [])
  | value tag letters held, character =>
    if character = '"' then (closed (tag.add letters held), [])
    else if IsAngle character then (broken, [])
    else (value tag letters (held ++ [character]), [])
  | closed tag, character =>
    if character = '>' then (outside, [tag])
    else if character = ' ' then (gap tag, [])
    else (broken, [])
  | broken, _ => (broken, [])

/-- The reader after a text, with the tags that end in it. -/
def run (reading : Reading) : List Char → Reading × List Tag
  | [] => (reading, [])
  | character :: rest =>
    let step := reading.next character
    let after := run step.1 rest
    (after.1, step.2 ++ after.2)

theorem run_append (reading : Reading) (first second : List Char) :
    reading.run (first ++ second) =
      (((reading.run first).1.run second).1,
        (reading.run first).2 ++ ((reading.run first).1.run second).2) := by
  induction first generalizing reading with
  | nil => rfl
  | cons head tail inductionHypothesis =>
      rw [List.cons_append, run, run, inductionHypothesis]
      simp only [List.append_assoc]

end Reading

/-- A text is read as a sequence of tags, with nothing left open. -/
def Reads (text : List Char) (tags : List Tag) : Prop :=
  Reading.outside.run text = (.outside, tags)

instance (text : List Char) (tags : List Tag) : Decidable (Reads text tags) :=
  inferInstanceAs (Decidable (_ = _))

namespace Reads

variable {first second text : List Char} {firstTags secondTags tags : List Tag}

theorem nil : Reads [] [] := rfl

theorem append (firstReads : Reads first firstTags) (secondReads : Reads second secondTags) :
    Reads (first ++ second) (firstTags ++ secondTags) := by
  rw [Reads] at firstReads secondReads
  rw [Reads, Reading.run_append, firstReads, secondReads]

/-- Between tags, whatever is no angle bracket is read as no tag. -/
theorem of_not_isAngle (plain : ∀ character ∈ text, ¬ IsAngle character) : Reads text [] := by
  induction text with
  | nil => exact nil
  | cons head tail inductionHypothesis =>
      have isPlain := not_or.mp (plain head List.mem_cons_self)
      have stays : Reading.outside.next head = (.outside, []) := by
        rw [Reading.next, if_neg isPlain.1, if_neg isPlain.2]
      have rest := inductionHypothesis fun other member =>
        plain other (List.mem_cons_of_mem head member)
      rw [Reads] at rest
      rw [Reads, Reading.run, stays]
      simp only [rest, List.nil_append]

/-- A text is read in one way only. -/
theorem unique (reads : Reads text firstTags) (readsAgain : Reads text secondTags) :
    firstTags = secondTags :=
  congrArg Prod.snd (reads.symm.trans readsAgain)

end Reads

namespace Reading

/-- A value is read up to its end. -/
theorem run_value
    {held text : List Char} (quotable : ∀ character ∈ text, IsQuotable character)
    (tag : Tag) (key : List Char) :
    (value tag key held).run text = (value tag key (held ++ text), []) := by
  induction text generalizing held with
  | nil => rw [run, List.append_nil]
  | cons head tail inductionHypothesis =>
      have isQuotable := quotable head List.mem_cons_self
      have further : (value tag key held).next head = (value tag key (held ++ [head]), []) := by
        rw [next, if_neg isQuotable.noQuote, if_neg isQuotable.noAngle]
      have rest : (value tag key (held ++ [head])).run tail =
          (value tag key (held ++ [head] ++ tail), []) :=
        inductionHypothesis fun other member => quotable other (List.mem_cons_of_mem head member)
      rw [run, further]
      simp only [rest, List.nil_append, List.append_assoc, List.singleton_append]

end Reading

/-- A tag with a value that is not fixed is read as soon as what stands before and behind the value
is. -/
theorem reads_value
    {before text after : List Char} {tag : Tag} {key : List Char} {earlier later : List Tag}
    (opens : Reading.outside.run before = (.value tag key [], earlier))
    (quotable : ∀ character ∈ text, IsQuotable character)
    (closes : (Reading.closed (tag.add key text)).run after = (.outside, later)) :
    Reads (before ++ text ++ '"' :: after) (earlier ++ later) := by
  have valueRuns : (Reading.value tag key []).run text = (.value tag key ([] ++ text), []) :=
    Reading.run_value quotable tag key
  have quote : (Reading.value tag key text).next '"' = (.closed (tag.add key text), []) := by
    rw [Reading.next, if_pos rfl]
  rw [Reads, Reading.run_append, Reading.run_append, opens]
  simp only [valueRuns, List.nil_append, List.append_nil, Reading.run, quote, closes]

/-! ## Texts with tags of a kind -/

/-- A text that is read as tags of which each is allowed. -/
def Marked (allowed : Tag → Prop) (text : List Char) : Prop :=
  ∃ tags, Reads text tags ∧ ∀ tag ∈ tags, allowed tag

namespace Marked

variable {allowed : Tag → Prop}

theorem of_not_isAngle {text : List Char}
    (plain : ∀ character ∈ text, ¬ IsAngle character) :
    Marked allowed text :=
  ⟨[], Reads.of_not_isAngle plain, List.forall_mem_nil allowed⟩

theorem nil : Marked allowed [] := of_not_isAngle (List.forall_mem_nil _)

theorem append {first second : List Char}
    (firstMarked : Marked allowed first) (secondMarked : Marked allowed second) :
    Marked allowed (first ++ second) := by
  obtain ⟨firstTags, firstReads, firstAllowed⟩ := firstMarked
  obtain ⟨secondTags, secondReads, secondAllowed⟩ := secondMarked
  refine ⟨firstTags ++ secondTags, firstReads.append secondReads, ?_⟩
  intro tag member
  exact (List.mem_append.mp member).elim (firstAllowed tag) (secondAllowed tag)

theorem mono {other : Tag → Prop} {text : List Char}
    (marked : Marked allowed text) (weaker : ∀ tag, allowed tag → other tag) :
    Marked other text := by
  obtain ⟨tags, reads, areAllowed⟩ := marked
  exact ⟨tags, reads, fun tag member => weaker tag (areAllowed tag member)⟩

theorem flatten {pieces : List (List Char)}
    (piecesMarked : ∀ piece ∈ pieces, Marked allowed piece) :
    Marked allowed pieces.flatten := by
  induction pieces with
  | nil => exact nil
  | cons first rest inductionHypothesis =>
      rw [List.flatten_cons]
      exact (piecesMarked first List.mem_cons_self).append
        (inductionHypothesis fun piece member =>
          piecesMarked piece (List.mem_cons_of_mem first member))

theorem intercalate {separator : List Char} {pieces : List (List Char)}
    (separatorMarked : Marked allowed separator)
    (piecesMarked : ∀ piece ∈ pieces, Marked allowed piece) :
    Marked allowed (separator.intercalate pieces) := by
  induction pieces with
  | nil => exact nil
  | cons first rest inductionHypothesis =>
      have firstMarked := piecesMarked first List.mem_cons_self
      cases rest with
      | nil =>
          rw [List.intercalate_singleton]
          exact firstMarked
      | cons second others =>
          rw [List.intercalate_cons_cons]
          exact (firstMarked.append separatorMarked).append
            (inductionHypothesis fun piece member =>
              piecesMarked piece (List.mem_cons_of_mem first member))

end Marked

end ApiDocs.Markup
