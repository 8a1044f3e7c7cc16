import ApiDocs.Proofs.Files.Absence
import ApiDocs.Proofs.Files.Directories
import ApiDocs.Proofs.Files.Names
import Mathlib.Data.List.Nodup

/-!
# What a file system lists

Where no directory has two entries of one name, the places that are listed below an entry are the
places at which something stands there, each listed once.  A path leads to the place that it means,
or it is not found; only names that no entry can have are a fault of another sort.
-/

namespace ApiDocs

namespace Entry

/-- No directory below an entry has two entries of one name. -/
inductive DistinctlyNamed : Entry → Prop where
  | file (content : List UInt8) : DistinctlyNamed (file content)
  | directory (entries : List (String × Entry))
      (distinct : (entries.map Prod.fst).Nodup)
      (below : ∀ pair ∈ entries, DistinctlyNamed pair.2) : DistinctlyNamed (directory entries)

mutual

theorem entryInduction
    {motive : Entry → Prop}
    (ofFile : ∀ content, motive (file content))
    (ofDirectory : ∀ entries, (∀ pair ∈ entries, motive pair.2) → motive (directory entries))
    (entry : Entry) :
    motive entry := by
  match entry with
  | .file content => exact ofFile content
  | .directory entries =>
      exact ofDirectory entries (entriesInduction ofFile ofDirectory entries)

theorem entriesInduction
    {motive : Entry → Prop}
    (ofFile : ∀ content, motive (file content))
    (ofDirectory : ∀ entries, (∀ pair ∈ entries, motive pair.2) → motive (directory entries))
    (entries : List (String × Entry)) :
    ∀ pair ∈ entries, motive pair.2 := by
  match entries with
  | [] => exact List.forall_mem_nil _
  | (name, entry) :: rest =>
      exact List.forall_mem_cons.mpr
        ⟨entryInduction ofFile ofDirectory entry, entriesInduction ofFile ofDirectory rest⟩

end

mutual

/-- Whether the names in every directory pass a test. -/
def namesPass (test : List String → Bool) : Entry → Bool
  | file _ => true
  | directory entries => test (entries.map Prod.fst) && namesPassBelow test entries

def namesPassBelow (test : List String → Bool) : List (String × Entry) → Bool
  | [] => true
  | (_, entry) :: rest => namesPass test entry && namesPassBelow test rest

end

theorem namesPassBelow_iff {test : List String → Bool} {entries : List (String × Entry)} :
    namesPassBelow test entries = true ↔ ∀ pair ∈ entries, namesPass test pair.2 = true := by
  induction entries with
  | nil => simp [namesPassBelow]
  | cons head tail inductionHypothesis =>
      rw [namesPassBelow, Bool.and_eq_true, inductionHypothesis, List.forall_mem_cons]

/-- What holds of a directory where its names pass a test and it holds of the entries can be
tested. -/
theorem namesPass_iff
    {test : List String → Bool} {holds : Entry → Prop}
    (ofFile : ∀ content, holds (file content))
    (ofDirectory : ∀ entries, holds (directory entries) ↔
      test (entries.map Prod.fst) = true ∧ ∀ pair ∈ entries, holds pair.2)
    (entry : Entry) :
    namesPass test entry = true ↔ holds entry := by
  induction entry using entryInduction with
  | ofFile content => exact iff_of_true rfl (ofFile content)
  | ofDirectory entries inductionHypothesis =>
      rw [namesPass, Bool.and_eq_true, namesPassBelow_iff, ofDirectory]
      exact and_congr_right fun _ => forall₂_congr inductionHypothesis

theorem distinctlyNamed_directory {entries : List (String × Entry)} :
    (directory entries).DistinctlyNamed ↔
      (entries.map Prod.fst).Nodup ∧ ∀ pair ∈ entries, pair.2.DistinctlyNamed := by
  constructor
  · intro named
    cases named with
    | directory _ distinct below => exact ⟨distinct, below⟩
  · rintro ⟨distinct, below⟩
    exact .directory entries distinct below

theorem wellNamed_directory {entries : List (String × Entry)} :
    (directory entries).WellNamed ↔
      (∀ pair ∈ entries, IsName pair.1) ∧ ∀ pair ∈ entries, pair.2.WellNamed := by
  constructor
  · intro named
    cases named with
    | directory _ names below => exact ⟨names, below⟩
  · rintro ⟨names, below⟩
    exact .directory entries names below

instance (entry : Entry) : Decidable entry.DistinctlyNamed :=
  decidable_of_iff (namesPass (fun names => names.Nodup) entry = true) <|
    namesPass_iff .file
      (fun entries => by rw [decide_eq_true_iff, distinctlyNamed_directory]) entry

instance (entry : Entry) : Decidable entry.WellNamed :=
  decidable_of_iff (namesPass (fun names => ∀ name ∈ names, IsName name) entry = true) <|
    namesPass_iff .file
      (fun entries => by rw [decide_eq_true_iff, wellNamed_directory, List.forall_mem_map]) entry

theorem lookup_of_mem
    {entries : List (String × Entry)} {name : String} {entry : Entry}
    (distinct : (entries.map Prod.fst).Nodup)
    (member : (name, entry) ∈ entries) :
    entries.lookup name = some entry := by
  induction entries with
  | nil => cases member
  | cons head tail inductionHypothesis =>
      obtain ⟨first, other⟩ := head
      obtain ⟨fresh, tailDistinct⟩ := List.nodup_cons.mp distinct
      rcases List.mem_cons.mp member with same | inTail
      · cases same
        simp
      · have different : name ≠ first := by
          rintro rfl
          exact fresh (List.mem_map.mpr ⟨(name, entry), inTail, rfl⟩)
        have elsewhere : (name == first) = false := beq_eq_false_iff_ne.mpr different
        rw [List.lookup_cons, elsewhere]
        exact inductionHypothesis tailDistinct inTail

theorem DistinctlyNamed.of_get?
    {entry reached : Entry} {place : List String}
    (distinct : entry.DistinctlyNamed)
    (found : entry.get? place = some reached) :
    reached.DistinctlyNamed := by
  induction place generalizing entry with
  | nil =>
      obtain rfl := Option.some.inj found
      exact distinct
  | cons name names inductionHypothesis =>
      cases distinct with
      | file content => cases found
      | directory entries _ below =>
          rw [get?, Option.bind_eq_some_iff] at found
          obtain ⟨inner, here, found⟩ := found
          obtain ⟨first, second, split, _⟩ := List.lookup_eq_some_iff.mp here
          exact inductionHypothesis (below (name, inner) (by simp [split])) found

theorem WellNamed.isName_of_get?
    {entry reached : Entry} {place : List String}
    (wellNamed : entry.WellNamed)
    (found : entry.get? place = some reached) :
    ∀ name ∈ place, IsName name := by
  by_cases here : place = []
  · simp [here]
  · have listed := (Disk.mem_below_of_get? found).1 here
    exact wellNamed.isName_of_mem_below (List.forall_mem_nil _) listed

end Entry

namespace Disk

/-! ## Listings -/

theorem mem_belowEntries
    {entries : List (String × Entry)} {place : List String} {reached : Entry} :
    (place, reached) ∈ belowEntries [] entries ↔
      ∃ name entry names, place = name :: names ∧ (name, entry) ∈ entries ∧
        (names = [] ∧ reached = entry ∨ (names, reached) ∈ below [] entry) := by
  induction entries with
  | nil => simp [belowEntries]
  | cons head tail inductionHypothesis =>
      obtain ⟨first, other⟩ := head
      rw [belowEntries_cons, List.mem_cons, List.mem_append, List.mem_map, inductionHypothesis]
      constructor
      · rintro (same | ⟨inner, listed, same⟩ | ⟨name, entry, names, split, member, reaches⟩)
        · cases same
          exact ⟨first, _, [], rfl, List.mem_cons_self, Or.inl ⟨rfl, rfl⟩⟩
        · cases same
          exact ⟨first, other, inner.1, rfl, List.mem_cons_self, Or.inr listed⟩
        · exact ⟨name, entry, names, split, List.mem_cons_of_mem _ member, reaches⟩
      · rintro ⟨name, entry, names, rfl, member, reaches⟩
        rcases List.mem_cons.mp member with same | inTail
        · cases same
          rcases reaches with ⟨rfl, rfl⟩ | listed
          · exact Or.inl rfl
          · exact Or.inr (Or.inl ⟨(names, reached), listed, rfl⟩)
        · exact Or.inr (Or.inr ⟨name, entry, names, rfl, inTail, reaches⟩)

theorem ne_nil_of_mem_below
    {entry reached : Entry} {place : List String}
    (listed : (place, reached) ∈ below [] entry) :
    place ≠ [] := by
  cases entry with
  | file content =>
      rw [below] at listed
      cases listed
  | directory entries =>
      rw [below] at listed
      obtain ⟨name, _, names, rfl, _⟩ := mem_belowEntries.mp listed
      exact List.cons_ne_nil name names

/-- What is listed is what stands somewhere below. -/
theorem mem_below_iff
    {entry reached : Entry} {place : List String}
    (distinct : entry.DistinctlyNamed) :
    (place, reached) ∈ below [] entry ↔ place ≠ [] ∧ entry.get? place = some reached := by
  constructor
  · intro listed
    refine ⟨ne_nil_of_mem_below listed, ?_⟩
    induction distinct generalizing place with
    | file content =>
        rw [below] at listed
        cases listed
    | directory entries distinct _ inductionHypothesis =>
        rw [below] at listed
        obtain ⟨name, entry, names, rfl, member, reaches⟩ := mem_belowEntries.mp listed
        rw [Entry.get?, Entry.lookup_of_mem distinct member, Option.bind_some]
        rcases reaches with ⟨rfl, rfl⟩ | further
        · rfl
        · exact inductionHypothesis (name, entry) member further
  · rintro ⟨inside, found⟩
    exact (mem_below_of_get? found).1 inside

theorem belowEntries_places_nodup
    {entries : List (String × Entry)}
    (distinct : (entries.map Prod.fst).Nodup)
    (once : ∀ pair ∈ entries, ((below [] pair.2).map Prod.fst).Nodup) :
    ((belowEntries [] entries).map Prod.fst).Nodup := by
  induction entries with
  | nil => simp [belowEntries]
  | cons head tail inductionHypothesis =>
      obtain ⟨name, entry⟩ := head
      obtain ⟨fresh, tailDistinct⟩ := List.nodup_cons.mp distinct
      obtain ⟨entryOnce, tailOnce⟩ := List.forall_mem_cons.mp once
      -- the places of the other entries begin with other names
      have apart (names : List String) : name :: names ∉ (belowEntries [] tail).map Prod.fst := by
        intro listed
        obtain ⟨⟨place, reached⟩, member, same⟩ := List.mem_map.mp listed
        obtain ⟨other, entry, others, split, inTail, _⟩ := mem_belowEntries.mp member
        cases same.symm.trans split
        exact fresh (List.mem_map.mpr ⟨(name, entry), inTail, rfl⟩)
      have deeper : [name] ∉ ((below [] entry).map Prod.fst).map fun place => name :: place := by
        intro listed
        obtain ⟨place, inner, same⟩ := List.mem_map.mp listed
        obtain ⟨found, member, rfl⟩ := List.mem_map.mp inner
        exact ne_nil_of_mem_below member (List.cons.inj same).2
      rw [places_cons, List.nodup_cons, List.mem_append, List.nodup_append]
      refine ⟨?_, entryOnce.map List.cons_injective, inductionHypothesis tailDistinct tailOnce, ?_⟩
      · rintro (inEntry | inTail)
        · exact deeper inEntry
        · exact apart [] inTail
      · rintro place inEntry _ inTail rfl
        obtain ⟨names, _, rfl⟩ := List.mem_map.mp inEntry
        exact apart names inTail

/-- Every place is listed once. -/
theorem places_nodup {entry : Entry} (distinct : entry.DistinctlyNamed) :
    ((below [] entry).map Prod.fst).Nodup := by
  induction distinct with
  | file content => simp [below]
  | directory entries distinct _ inductionHypothesis =>
      rw [below]
      exact belowEntries_places_nodup distinct inductionHypothesis

/-! ## Where paths lead -/

theorem walk_eq_nameTooLong_iff {tree : Entry} {start parts : List String} :
    walk tree start parts = .error .nameTooLong ↔
      ∃ before name after reached entries, parts = before ++ name :: after ∧
        walk tree start before = .ok reached ∧
        tree.get? reached = some (.directory entries) ∧ longestName < name.utf8ByteSize := by
  constructor
  · intro fails
    induction parts generalizing start with
    | nil => cases fails
    | cons part parts inductionHypothesis =>
        rw [walk] at fails
        split at fails
        · cases fails
        · cases fails
        · rename_i entries stands
          by_cases long : longestName < part.utf8ByteSize
          · exact ⟨[], part, parts, start, entries, rfl, rfl, stands, long⟩
          · rw [if_neg long] at fails
            obtain ⟨before, name, after, reached, innerEntries, rfl, leads, found, tooLong⟩ :=
              inductionHypothesis fails
            refine ⟨part :: before, name, after, reached, innerEntries, rfl, ?_, found, tooLong⟩
            rw [walk, stands]
            simp only
            rw [if_neg long, leads]
  · rintro ⟨before, name, after, reached, entries, rfl, leads, stands, long⟩
    rw [walk_append, leads]
    simp only [Except.bind]
    rw [walk, stands]
    simp only
    rw [if_pos long]

variable {disk : Disk} {path : Path} {entry : Entry}

theorem find?_eq_some_iff :
    disk.find? path = some entry ↔
      disk.locate path = .ok (disk.resolve path) ∧
        disk.tree.get? (disk.resolve path) = some entry := by
  rw [find?]
  cases leads : disk.locate path with
  | error problem => simp
  | ok place =>
      obtain rfl := resolve_of_locate leads
      simp

theorem isDirectory_iff :
    disk.isDirectory path = true ↔ ∃ entries, disk.find? path = some (.directory entries) := by
  rw [isDirectory]
  cases disk.find? path with
  | none => simp
  | some entry => cases entry <;> simp [Entry.isDirectory]

theorem isFile_iff :
    disk.isFile path = true ↔ ∃ content, disk.find? path = some (.file content) := by
  rw [isFile]
  cases disk.find? path with
  | none => simp
  | some entry => cases entry <;> simp [Entry.isFile]

/-- A directory on the way is asked for a name that is longer than names of entries can be. -/
def Overlong (disk : Disk) (path : Path) : Prop :=
  ∃ before name after, path.parts = before ++ name :: after ∧
    disk.isDirectory { path with parts := before } = true ∧ longestName < name.utf8ByteSize

theorem locate_eq_nameTooLong_iff :
    disk.locate path = .error .nameTooLong ↔ disk.Overlong path := by
  have onTheWay (before reached : List String) (entries : List (String × Entry)) :
      (walk disk.tree (if path.isAbsolute then [] else disk.workingDirectory) before = .ok reached ∧
          disk.tree.get? reached = some (.directory entries)) ↔
        reached = disk.resolve { path with parts := before } ∧
          disk.find? { path with parts := before } = some (.directory entries) := by
    rw [find?_eq_some_iff]
    constructor
    · rintro ⟨leads, stands⟩
      have isPlace : disk.resolve { path with parts := before } = reached := resolve_of_locate leads
      rw [isPlace]
      exact ⟨rfl, leads, stands⟩
    · rintro ⟨rfl, leads, stands⟩
      exact ⟨leads, stands⟩
  rw [locate, walk_eq_nameTooLong_iff, Overlong]
  constructor
  · rintro ⟨before, name, after, reached, entries, split, leads, stands, long⟩
    have found := ((onTheWay before reached entries).mp ⟨leads, stands⟩).2
    exact ⟨before, name, after, split, isDirectory_iff.mpr ⟨entries, found⟩, long⟩
  · rintro ⟨before, name, after, split, stands, long⟩
    obtain ⟨entries, found⟩ := isDirectory_iff.mp stands
    obtain ⟨leads, stands⟩ := (onTheWay before _ entries).mpr ⟨rfl, found⟩
    exact ⟨before, name, after, _, entries, split, leads, stands, long⟩

theorem not_overlong_of_find? (found : disk.find? path = some entry) : ¬ disk.Overlong path := by
  intro long
  obtain ⟨leads, _⟩ := find?_eq_some_iff.mp found
  rw [locate_eq_nameTooLong_iff.mpr long] at leads
  cases leads

end Disk

end ApiDocs
