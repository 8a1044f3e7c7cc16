import ApiDocs.Files.Disk

/-!
# Files in a tree

What a change at one place of a tree does to the files at all places: the places that are not
below it keep their files, and those below it have the files of what was put there.
-/

namespace ApiDocs

namespace Entry

/-! ## Entries of a directory -/

section Entries

variable {entries : List (String × Entry)} {name other : String}

theorem lookup_setName (entry : Entry) :
    (setName entries name entry).lookup name = some entry := by
  induction entries with
  | nil => simp [setName]
  | cons head tail inductionHypothesis =>
      by_cases same : head.1 = name
      · simp [setName, same]
      · have different : (name == head.1) = false := by
          simpa using Ne.symm same
        rw [setName, if_neg same, List.lookup_cons, different]
        exact inductionHypothesis

theorem lookup_setName_of_ne
    (different : other ≠ name)
    (entry : Entry) :
    (setName entries name entry).lookup other = entries.lookup other := by
  induction entries with
  | nil =>
      have elsewhere : (other == name) = false := by simpa using different
      simp [setName, List.lookup_cons, elsewhere]
  | cons head tail inductionHypothesis =>
      by_cases same : head.1 = name
      · have elsewhere : (other == name) = false := by simpa using different
        have headElsewhere : (other == head.1) = false := by rwa [same]
        rw [setName, if_pos same, List.lookup_cons, List.lookup_cons, elsewhere, headElsewhere]
      · rw [setName, if_neg same, List.lookup_cons, List.lookup_cons, inductionHypothesis]

theorem lookup_filter_ne :
    (entries.filter fun pair => pair.1 ≠ name).lookup name = none := by
  rw [List.lookup_eq_none_iff]
  intro pair member
  have kept : pair.1 ≠ name := of_decide_eq_true (List.mem_filter.mp member).2
  simpa using Ne.symm kept

theorem lookup_filter_ne_of_ne
    (different : other ≠ name) :
    (entries.filter fun pair => pair.1 ≠ name).lookup other = entries.lookup other := by
  induction entries with
  | nil => rfl
  | cons head tail inductionHypothesis =>
      by_cases same : head.1 = name
      · have elsewhere : (other == head.1) = false := by simpa [same] using different
        rw [List.filter_cons_of_neg (by simpa using same), inductionHypothesis,
          List.lookup_cons, elsewhere]
      · rw [List.filter_cons_of_pos (by simpa using same), List.lookup_cons, List.lookup_cons,
          inductionHypothesis]

end Entries

/-! ## Looking up -/

theorem get?_append (entry : Entry) (place rest : List String) :
    entry.get? (place ++ rest) = (entry.get? place).bind fun reached => reached.get? rest := by
  induction place generalizing entry with
  | nil => rfl
  | cons name names inductionHypothesis =>
      cases entry with
      | file content => rfl
      | directory entries =>
          rw [List.cons_append, get?, get?, Option.bind_assoc]
          exact congrArg _ (funext inductionHypothesis)

def content? : Entry → Option (List UInt8)
  | file content => some content
  | directory _ => none

/-- What stands at a place below an entry: a directory or a file with its content.  Whatever else
stands in a directory does not count. -/
def standsAt? (entry : Entry) (place : List String) : Option (Option (List UInt8)) :=
  (entry.get? place).map content?

theorem standsAt?_directory_cons
    (entries : List (String × Entry)) (name : String) (names : List String) :
    (directory entries).standsAt? (name :: names) =
      (entries.lookup name).bind fun entry => entry.standsAt? names := by
  rw [standsAt?, get?, Option.map_bind]
  rfl

/-- The content of the file at a place below an entry, if a file stands there. -/
def fileAt? (entry : Entry) (place : List String) : Option (List UInt8) :=
  (entry.get? place).bind content?

theorem fileAt?_eq_join (entry : Entry) (place : List String) :
    entry.fileAt? place = (entry.standsAt? place).join := by
  rw [fileAt?, standsAt?]
  cases entry.get? place <;> rfl

theorem fileAt?_eq_some {entry : Entry} {place : List String} {content : List UInt8} :
    entry.fileAt? place = some content ↔ entry.get? place = some (file content) := by
  rw [fileAt?, Option.bind_eq_some_iff]
  constructor
  · rintro ⟨reached, found, holds⟩
    cases reached with
    | directory entries => cases holds
    | file other =>
        obtain rfl : other = content := Option.some.inj holds
        exact found
  · intro found
    exact ⟨file content, found, rfl⟩

theorem fileAt?_append_of_get?_eq_none
    {entry : Entry} {place : List String}
    (absent : entry.get? place = none)
    (rest : List String) :
    entry.fileAt? (place ++ rest) = none := by
  rw [fileAt?, get?_append, absent]
  rfl

theorem fileAt?_append_of_file
    {entry : Entry} {place rest : List String} {content : List UInt8}
    (found : entry.get? place = some (file content))
    (below : rest ≠ []) :
    entry.fileAt? (place ++ rest) = none := by
  obtain ⟨name, names, rfl⟩ := List.exists_cons_of_ne_nil below
  rw [fileAt?, get?_append, found]
  rfl

/-! ## Changing -/

theorem content?_put (entry : Entry) (place : List String) (new? : Option Entry) :
    (entry.put place new?).content? = entry.content? := by
  induction entry, place, new? using Entry.put.induct with
  | case1 | case2 | case3 | case4 => rfl
  | case5 entries name names new? notAdded notRemoved entry found inductionHypothesis =>
      rw [put, found]
      · rfl
      · exact notAdded
      · exact notRemoved
  | case6 entries name names new? notAdded notRemoved absent =>
      rw [put, absent]
      · exact notAdded
      · exact notRemoved

/-- A change at one place leaves alone what stands at places that are not below it. -/
theorem standsAt?_put_of_not_prefix
    {place other : List String}
    (apart : ¬ place <+: other)
    (entry : Entry) (new? : Option Entry) :
    (entry.put place new?).standsAt? other = entry.standsAt? other := by
  cases other with
  | nil => exact congrArg some (content?_put entry place new?)
  | cons first others =>
      induction entry, place, new? using Entry.put.induct generalizing first others with
      | case1 => exact absurd List.nil_prefix apart
      | case2 => rfl
      | case3 entries name entry =>
          have different : first ≠ name := by
            rintro rfl
            exact apart (List.cons_prefix_cons.mpr ⟨rfl, List.nil_prefix⟩)
          rw [put, standsAt?_directory_cons, standsAt?_directory_cons,
            lookup_setName_of_ne different]
      | case4 entries name =>
          have different : first ≠ name := by
            rintro rfl
            exact apart (List.cons_prefix_cons.mpr ⟨rfl, List.nil_prefix⟩)
          rw [put, standsAt?_directory_cons, standsAt?_directory_cons,
            lookup_filter_ne_of_ne different]
      | case5 entries name names new? notAdded notRemoved entry found inductionHypothesis =>
          rw [put, found]
          · by_cases same : first = name
            · subst same
              have restApart : ¬ names <+: others := fun below =>
                apart (List.cons_prefix_cons.mpr ⟨rfl, below⟩)
              rw [standsAt?_directory_cons, standsAt?_directory_cons, lookup_setName, found,
                Option.bind_some, Option.bind_some]
              cases others with
              | nil => exact congrArg some (content?_put entry names new?)
              | cons second rest => exact inductionHypothesis second rest restApart
            · rw [standsAt?_directory_cons, standsAt?_directory_cons, lookup_setName_of_ne same]
          · exact notAdded
          · exact notRemoved
      | case6 entries name names new? notAdded notRemoved absent =>
          rw [put, absent]
          · exact notAdded
          · exact notRemoved

theorem fileAt?_put_of_not_prefix
    {place other : List String}
    (apart : ¬ place <+: other)
    (entry : Entry) (new? : Option Entry) :
    (entry.put place new?).fileAt? other = entry.fileAt? other := by
  rw [fileAt?_eq_join, fileAt?_eq_join, standsAt?_put_of_not_prefix apart]

/-- What stands below the place of a change belongs to what was put there. -/
theorem get?_put_append
    {place rest : List String} {entry found : Entry} {new? : Option Entry}
    (inside : place ≠ [])
    (stands : (entry.put place new?).get? (place ++ rest) = some found) :
    ∃ new, new? = some new ∧ new.get? rest = some found := by
  induction entry, place, new? using Entry.put.induct with
  | case1 => exact absurd rfl inside
  | case2 => cases stands
  | case3 entries name entry =>
      rw [put, List.singleton_append, get?, lookup_setName] at stands
      exact ⟨entry, rfl, stands⟩
  | case4 entries name =>
      rw [put, List.singleton_append, get?, lookup_filter_ne] at stands
      cases stands
  | case5 entries name names new? notAdded notRemoved entry found inductionHypothesis =>
      have deeper : names ≠ [] := by
        rintro rfl
        cases new? with
        | none => exact notRemoved rfl rfl
        | some new => exact notAdded new rfl rfl
      rw [put, found] at stands
      · rw [List.cons_append, get?, lookup_setName] at stands
        exact inductionHypothesis deeper stands
      · exact notAdded
      · exact notRemoved
  | case6 entries name names new? notAdded notRemoved absent =>
      rw [put, absent] at stands
      · rw [List.cons_append, get?, absent] at stands
        cases stands
      · exact notAdded
      · exact notRemoved

theorem fileAt?_put_append
    {place rest : List String} {entry : Entry} {new? : Option Entry} {content : List UInt8}
    (inside : place ≠ [])
    (stands : (entry.put place new?).fileAt? (place ++ rest) = some content) :
    ∃ new, new? = some new ∧ new.fileAt? rest = some content := by
  obtain ⟨new, added, found⟩ := get?_put_append inside (fileAt?_eq_some.mp stands)
  exact ⟨new, added, fileAt?_eq_some.mpr found⟩

/-- Nothing stands where something was removed. -/
theorem get?_put_none {place : List String} (inside : place ≠ []) (entry : Entry) :
    (entry.put place none).get? place = none := by
  rw [Option.eq_none_iff_forall_ne_some]
  intro found stands
  have below : (entry.put place none).get? (place ++ []) = some found := by
    rwa [List.append_nil]
  obtain ⟨new, added, _⟩ := get?_put_append inside below
  cases added

theorem fileAt?_put_none
    {place other : List String}
    (inside : place ≠ [])
    (below : place <+: other)
    (entry : Entry) :
    (entry.put place none).fileAt? other = none := by
  obtain ⟨rest, rfl⟩ := below
  rw [Option.eq_none_iff_forall_ne_some]
  intro content stands
  obtain ⟨new, added, _⟩ := fileAt?_put_append inside stands
  cases added

/-- A new directory in an empty place changes no file. -/
theorem fileAt?_put_directory
    {entry : Entry} {place : List String}
    (absent : entry.get? place = none)
    (other : List String) :
    (entry.put place (some (directory []))).fileAt? other = entry.fileAt? other := by
  by_cases below : place <+: other
  · have inside : place ≠ [] := by
      rintro rfl
      cases absent
    obtain ⟨rest, rfl⟩ := below
    rw [fileAt?_append_of_get?_eq_none absent, Option.eq_none_iff_forall_ne_some]
    intro content stands
    obtain ⟨new, added, holds⟩ := fileAt?_put_append inside stands
    obtain rfl := Option.some.inj added
    cases rest <;> cases holds
  · exact fileAt?_put_of_not_prefix below entry _

/-- A file that is written where no directory stands changes no other file. -/
theorem fileAt?_put_file
    {entry : Entry} {place other : List String}
    (noDirectory : ∀ entries, entry.get? place ≠ some (directory entries))
    (different : other ≠ place)
    (content : List UInt8) :
    (entry.put place (some (file content))).fileAt? other = entry.fileAt? other := by
  by_cases below : place <+: other
  · obtain ⟨rest, rfl⟩ := below
    have deeper : rest ≠ [] := by
      rintro rfl
      exact different (List.append_nil place)
    have before : entry.fileAt? (place ++ rest) = none := by
      cases reached : entry.get? place with
      | none => exact fileAt?_append_of_get?_eq_none reached rest
      | some old =>
          cases old with
          | file oldContent => exact fileAt?_append_of_file reached deeper
          | directory entries => exact absurd reached (noDirectory entries)
    by_cases inside : place = []
    · subst inside
      exact rfl
    · rw [before, Option.eq_none_iff_forall_ne_some]
      intro found stands
      obtain ⟨new, added, holds⟩ := fileAt?_put_append inside stands
      obtain rfl := Option.some.inj added
      obtain ⟨name, names, rfl⟩ := List.exists_cons_of_ne_nil deeper
      cases holds
  · exact fileAt?_put_of_not_prefix below entry _

/-- What is put into a directory stands there. -/
theorem get?_put
    {entry : Entry} {place : List String} {entries : List (String × Entry)}
    (stands : entry.get? place = some (directory entries))
    (name : String) (new : Entry) :
    (entry.put (place ++ [name]) (some new)).get? (place ++ [name]) = some new := by
  induction place generalizing entry with
  | nil =>
      obtain rfl := Option.some.inj stands
      rw [List.nil_append, put, get?, lookup_setName]
      rfl
  | cons first rest inductionHypothesis =>
      cases entry with
      | file content => cases stands
      | directory outer =>
          rw [get?, Option.bind_eq_some_iff] at stands
          obtain ⟨inner, found, stands⟩ := stands
          have deeper := inductionHypothesis stands
          obtain ⟨second, others, split⟩ : ∃ second others, rest ++ [name] = second :: others :=
            List.exists_cons_of_ne_nil
              (List.append_ne_nil_of_right_ne_nil rest (List.cons_ne_nil name []))
          rw [split] at deeper
          rw [List.cons_append, split, put, found]
          · simp only
            rw [get?, lookup_setName, Option.bind_some, deeper]
          · intro _ _ single
            cases single
          · intro _ single
            cases single

end Entry

end ApiDocs
