import ApiDocs.Files.Disk

/-!
# Names

The names that entries of a file system have, and the endings of names: what two endings exclude,
and that the last component of a path ends as its text does.
-/

namespace ApiDocs

/-! ## Names of entries -/

/-- What an entry of a directory can be called. -/
structure IsName (name : String) : Prop where
  ne_empty : name ≠ ""
  ne_dot : name ≠ "."
  ne_dots : name ≠ ".."
  no_slash : '/' ∉ name.toList

instance (name : String) : Decidable (IsName name) :=
  decidable_of_iff (name ≠ "" ∧ name ≠ "." ∧ name ≠ ".." ∧ '/' ∉ name.toList)
    ⟨fun usable => ⟨usable.1, usable.2.1, usable.2.2.1, usable.2.2.2⟩,
      fun isName => ⟨isName.ne_empty, isName.ne_dot, isName.ne_dots, isName.no_slash⟩⟩

namespace Entry

/-- All entries below an entry have names that entries can have. -/
inductive WellNamed : Entry → Prop where
  | file (content : List UInt8) : WellNamed (file content)
  | directory (entries : List (String × Entry))
      (names : ∀ pair ∈ entries, IsName pair.1)
      (below : ∀ pair ∈ entries, WellNamed pair.2) : WellNamed (directory entries)

theorem WellNamed.of_get?
    {entry reached : Entry} {place : List String}
    (wellNamed : entry.WellNamed)
    (found : entry.get? place = some reached) :
    reached.WellNamed := by
  induction place generalizing entry with
  | nil =>
      obtain rfl := Option.some.inj found
      exact wellNamed
  | cons name names inductionHypothesis =>
      cases wellNamed with
      | file content => cases found
      | directory entries _ below =>
          rw [get?, Option.bind_eq_some_iff] at found
          obtain ⟨entry, here, found⟩ := found
          obtain ⟨first, second, split, _⟩ := List.lookup_eq_some_iff.mp here
          have member : (name, entry) ∈ entries := by
            rw [split]
            exact List.mem_append_right first List.mem_cons_self
          exact inductionHypothesis (below (name, entry) member) found

theorem WellNamed.isName_of_mem_below
    {entry : Entry} (wellNamed : entry.WellNamed)
    {start : List String} (startNamed : ∀ name ∈ start, IsName name)
    {found : List String × Entry} (member : found ∈ Disk.below start entry) :
    ∀ name ∈ found.1, IsName name := by
  induction wellNamed generalizing start with
  | file content =>
      rw [Disk.below] at member
      cases member
  | directory entries names below inductionHypothesis =>
      rw [Disk.below] at member
      induction entries with
      | nil =>
          rw [Disk.belowEntries] at member
          cases member
      | cons head tail tailHypothesis =>
          obtain ⟨name, entry⟩ := head
          have headNamed : ∀ part ∈ start ++ [name], IsName part := by
            intro part partMember
            rcases List.mem_append.mp partMember with inStart | isLast
            · exact startNamed part inStart
            · rw [List.mem_singleton.mp isLast]
              exact names (name, entry) List.mem_cons_self
          rw [Disk.belowEntries, List.mem_cons, List.mem_append] at member
          rcases member with rfl | deeper | beside
          · exact headNamed
          · exact inductionHypothesis (name, entry) List.mem_cons_self headNamed deeper
          · exact tailHypothesis
              (fun pair pairMember => names pair (List.mem_cons_of_mem _ pairMember))
              (fun pair pairMember => below pair (List.mem_cons_of_mem _ pairMember))
              (fun pair pairMember => inductionHypothesis pair (List.mem_cons_of_mem _ pairMember))
              beside

end Entry

/-! ## Endings -/

theorem endsWith_iff (text ending : String) :
    text.endsWith ending = true ↔ ending.toList <:+ text.toList := by
  rw [String.endsWith_eq_endsWith_toSlice, String.Slice.endsWith_string_iff, String.copy_toSlice]

theorem endsWith_append (text ending : String) : (text ++ ending).endsWith ending = true := by
  rw [endsWith_iff, String.toList_append]
  exact List.suffix_append _ _

/-- A text has at most one of two endings where neither is the end of the other. -/
theorem not_endsWith_of_endsWith
    {text ending other : String}
    (notShorter : ¬ other.toList <:+ ending.toList)
    (notLonger : ¬ ending.toList <:+ other.toList)
    (ends : text.endsWith ending = true) :
    ¬ text.endsWith other = true := by
  intro endsOtherwise
  rw [endsWith_iff] at ends endsOtherwise
  rcases List.suffix_or_suffix_of_suffix ends endsOtherwise with longer | shorter
  · exact notLonger longer
  · exact notShorter shorter

/-- The last name of a place has an ending. -/
def EndsIn (ending : String) (place : List String) : Prop :=
  ∃ name, place.getLast? = some name ∧ name.endsWith ending = true

theorem EndsIn.append
    {ending : String} {place : List String}
    (ends : EndsIn ending place)
    (start : List String) :
    EndsIn ending (start ++ place) := by
  obtain ⟨name, last, nameEnds⟩ := ends
  refine ⟨name, ?_, nameEnds⟩
  rw [List.getLast?_append, last, Option.some_or]

theorem EndsIn.not_endsIn
    {ending other : String} {place : List String}
    (ends : EndsIn ending place)
    (notShorter : ¬ other.toList <:+ ending.toList)
    (notLonger : ¬ ending.toList <:+ other.toList) :
    ¬ EndsIn other place := by
  obtain ⟨name, last, nameEnds⟩ := ends
  rintro ⟨same, lastAgain, endsOtherwise⟩
  obtain rfl : name = same := Option.some.inj (last.symm.trans lastAgain)
  exact not_endsWith_of_endsWith notShorter notLonger nameEnds endsOtherwise

/-! ## Components of texts -/

namespace Text

theorem splitOn_of_notMem
    {separator : Char} {text : List Char}
    (absent : separator ∉ text) :
    splitOn separator text = [text] := by
  induction text with
  | nil => rfl
  | cons head tail inductionHypothesis =>
      have headElse : (head == separator) = false := by
        simpa using fun same : head = separator => absent (same ▸ List.mem_cons_self)
      rw [splitOn, inductionHypothesis fun member => absent (List.mem_cons_of_mem head member)]
      simp only [headElse, Bool.false_eq_true, if_false]

/-- An ending without separators is the end of the last piece. -/
theorem splitOn_append
    {separator : Char} {ending : List Char}
    (absent : separator ∉ ending)
    (text : List Char) :
    ∃ pieces piece, splitOn separator (text ++ ending) = pieces ++ [piece ++ ending] := by
  induction text with
  | nil => exact ⟨[], [], splitOn_of_notMem absent⟩
  | cons head tail inductionHypothesis =>
      obtain ⟨pieces, piece, split⟩ := inductionHypothesis
      rw [List.cons_append, splitOn, split]
      cases pieces with
      | nil =>
          by_cases same : head == separator
          · exact ⟨[[]], piece, by simp [same]⟩
          · exact ⟨[], head :: piece, by simp [same]⟩
      | cons first rest =>
          by_cases same : head == separator
          · exact ⟨[] :: first :: rest, piece, by simp [same]⟩
          · exact ⟨(head :: first) :: rest, piece, by simp [same]⟩

end Text

/-- The last component of a path ends as its text does. -/
theorem Path.components_endsIn
    {text ending : String}
    (noSlash : '/' ∉ ending.toList)
    (long : 1 < ending.toList.length)
    (ends : text.endsWith ending = true) :
    EndsIn ending (components text) := by
  rw [endsWith_iff] at ends
  obtain ⟨start, together⟩ := ends
  obtain ⟨before, piece, split⟩ := Text.splitOn_append noSlash start
  rw [together] at split
  have lastPiece : pieces text = before.map String.ofList ++
      [String.ofList (piece ++ ending.toList)] := by
    rw [pieces, split, List.map_append, List.map_singleton]
  have lengthy : 1 < (String.ofList (piece ++ ending.toList)).toList.length := by
    rw [String.toList_ofList, List.length_append]
    omega
  have counts : (String.ofList (piece ++ ending.toList) ≠ "" &&
      String.ofList (piece ++ ending.toList) ≠ ".") = true := by
    rw [Bool.and_eq_true, decide_eq_true_iff, decide_eq_true_iff]
    constructor
    · intro empty
      rw [empty] at lengthy
      exact absurd lengthy (by decide)
    · intro dot
      rw [dot] at lengthy
      exact absurd lengthy (by decide)
  refine ⟨String.ofList (piece ++ ending.toList), ?_, ?_⟩
  · rw [components, lastPiece, List.filter_append, List.filter_cons_of_pos (by exact counts),
      List.filter_nil, List.getLast?_concat]
  · rw [endsWith_iff, String.toList_ofList]
    exact List.suffix_append piece ending.toList

end ApiDocs
