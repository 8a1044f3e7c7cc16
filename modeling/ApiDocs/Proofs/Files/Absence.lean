import ApiDocs.Proofs.Files.Changes

/-!
# Absent files

A file system from which files are absent.  The directories stay, and at every other place stands
what stood there before.
-/

namespace ApiDocs

namespace Entry

mutual

/-- What is left of an entry when nothing stands at the absent places below it. -/
def without (absent : List String → Bool) : Entry → Entry
  | .file content => .file content
  | .directory entries => .directory (entriesWithout absent entries)

def entriesWithout (absent : List String → Bool) :
    List (String × Entry) → List (String × Entry)
  | [] => []
  | (name, entry) :: rest =>
    if absent [name] then entriesWithout absent rest
    else (name, without (fun place => absent (name :: place)) entry) :: entriesWithout absent rest

end

/-- What is listed at absent places is files. -/
def OnlyFiles (absent : List String → Bool) (listed : List (List String × Entry)) : Prop :=
  ∀ found ∈ listed, absent found.1 = true → found.2.isFile = true

instance (absent : List String → Bool) (listed : List (List String × Entry)) :
    Decidable (OnlyFiles absent listed) :=
  inferInstanceAs (Decidable (∀ found ∈ listed, _))

end Entry

open Entry (OnlyFiles)

namespace Disk

variable {absent : List String → Bool}

/-! ## Listings -/

mutual

theorem below_append (start place : List String) (entry : Entry) :
    below (start ++ place) entry =
      (below place entry).map fun found => (start ++ found.1, found.2) := by
  match entry with
  | .file content => rw [below, below, List.map_nil]
  | .directory entries =>
      rw [below, below]
      exact belowEntries_append start place entries

theorem belowEntries_append (start place : List String) (entries : List (String × Entry)) :
    belowEntries (start ++ place) entries =
      (belowEntries place entries).map fun found => (start ++ found.1, found.2) := by
  match entries with
  | [] => rw [belowEntries, belowEntries, List.map_nil]
  | (name, entry) :: rest =>
      rw [belowEntries, belowEntries, List.map_cons, List.map_append, List.append_assoc,
        below_append start (place ++ [name]) entry, belowEntries_append start place rest]

end

theorem below_singleton (name : String) (entry : Entry) :
    below [name] entry = (below [] entry).map fun found => (name :: found.1, found.2) :=
  below_append [name] [] entry

/-- A directory lists its first entry, what is below that, and what the others list. -/
theorem belowEntries_cons (name : String) (entry : Entry) (rest : List (String × Entry)) :
    belowEntries [] ((name, entry) :: rest) =
      ([name], entry) :: (((below [] entry).map fun found => (name :: found.1, found.2)) ++
        belowEntries [] rest) := by
  rw [belowEntries, List.nil_append, below_singleton]

/-- The places that a directory lists. -/
theorem places_cons (name : String) (entry : Entry) (rest : List (String × Entry)) :
    (belowEntries [] ((name, entry) :: rest)).map Prod.fst =
      [name] :: ((((below [] entry).map Prod.fst).map fun place => name :: place) ++
        (belowEntries [] rest).map Prod.fst) := by
  rw [belowEntries_cons, List.map_cons, List.map_append, List.map_map, List.map_map]
  rfl

theorem onlyFiles_cons {name : String} {entry : Entry} {rest : List (String × Entry)} :
    OnlyFiles absent (belowEntries [] ((name, entry) :: rest)) ↔
      (absent [name] = true → entry.isFile = true) ∧
        OnlyFiles (fun place => absent (name :: place)) (below [] entry) ∧
          OnlyFiles absent (belowEntries [] rest) := by
  rw [belowEntries_cons, OnlyFiles, List.forall_mem_cons, List.forall_mem_append,
    List.forall_mem_map]
  rfl

mutual

/-- Absent places are not listed, and all others still are. -/
theorem below_without
    (absent : List String → Bool) (entry : Entry)
    (onlyFiles : OnlyFiles absent (below [] entry)) :
    (below [] (entry.without absent)).map Prod.fst =
      ((below [] entry).map Prod.fst).filter fun place => !absent place := by
  match entry with
  | .file content => rw [Entry.without, below, List.map_nil, List.filter_nil]
  | .directory entries =>
      rw [below] at onlyFiles
      rw [Entry.without, below, below]
      exact belowEntries_without absent entries onlyFiles

theorem belowEntries_without
    (absent : List String → Bool) (entries : List (String × Entry))
    (onlyFiles : OnlyFiles absent (belowEntries [] entries)) :
    (belowEntries [] (Entry.entriesWithout absent entries)).map Prod.fst =
      ((belowEntries [] entries).map Prod.fst).filter fun place => !absent place := by
  match entries with
  | [] => rw [Entry.entriesWithout, belowEntries, List.map_nil, List.filter_nil]
  | (name, entry) :: rest =>
      obtain ⟨isFile, inner, others⟩ := onlyFiles_cons.mp onlyFiles
      have restListed := belowEntries_without absent rest others
      rw [Entry.entriesWithout, places_cons, List.filter_cons, List.filter_append, List.filter_map]
      by_cases gone : absent [name] = true
      · have nothing : below [] entry = [] := by
          cases entry with
          | file content => rw [below]
          | directory entries => cases isFile gone
        rw [if_pos gone, gone, nothing, restListed]
        rfl
      · have entryListed := below_without (fun place => absent (name :: place)) entry inner
        rw [if_neg gone, places_cons, entryListed, restListed, Bool.eq_false_iff.mpr gone]
        rfl

end

/-! ## Looking up -/

theorem lookup_entriesWithout
    (absent : List String → Bool) (entries : List (String × Entry)) (name : String) :
    (Entry.entriesWithout absent entries).lookup name =
      if absent [name] then none
      else (entries.lookup name).map (Entry.without fun place => absent (name :: place)) := by
  induction entries with
  | nil => simp [Entry.entriesWithout]
  | cons head tail inductionHypothesis =>
      obtain ⟨first, entry⟩ := head
      rw [Entry.entriesWithout, List.lookup_cons]
      by_cases same : name = first
      · subst same
        split
        · rename_i gone
          rw [inductionHypothesis, if_pos gone]
        · rw [List.lookup_cons, beq_self_eq_true]
          rfl
      · have elsewhere : (name == first) = false := beq_eq_false_iff_ne.mpr same
        rw [elsewhere]
        split
        · exact inductionHypothesis
        · rw [List.lookup_cons, elsewhere]
          exact inductionHypothesis

/-- The entry of a name is listed, and so is what is below it. -/
theorem mem_belowEntries_of_lookup
    {entries : List (String × Entry)} {name : String} {entry : Entry}
    (found : entries.lookup name = some entry) :
    ([name], entry) ∈ belowEntries [] entries ∧
      ∀ inner ∈ below [] entry, (name :: inner.1, inner.2) ∈ belowEntries [] entries := by
  induction entries with
  | nil => cases found
  | cons head tail inductionHypothesis =>
      obtain ⟨first, other⟩ := head
      rw [List.lookup_cons] at found
      rw [belowEntries_cons]
      by_cases same : name = first
      · subst same
        rw [beq_self_eq_true] at found
        obtain rfl := Option.some.inj found
        refine ⟨List.mem_cons_self, fun inner member => ?_⟩
        apply List.mem_cons_of_mem
        exact List.mem_append_left _ (List.mem_map.mpr ⟨inner, member, rfl⟩)
      · rw [beq_eq_false_iff_ne.mpr same] at found
        obtain ⟨here, below⟩ := inductionHypothesis found
        refine ⟨List.mem_cons_of_mem _ (List.mem_append_right _ here), fun inner member => ?_⟩
        exact List.mem_cons_of_mem _ (List.mem_append_right _ (below inner member))

/-- What stands at a place is listed there, with what is below it. -/
theorem mem_below_of_get?
    {entry reached : Entry} {place : List String}
    (found : entry.get? place = some reached) :
    (place ≠ [] → (place, reached) ∈ below [] entry) ∧
      ∀ inner ∈ below [] reached, (place ++ inner.1, inner.2) ∈ below [] entry := by
  induction place generalizing entry with
  | nil =>
      obtain rfl := Option.some.inj found
      exact ⟨fun inside => absurd rfl inside, fun inner member => member⟩
  | cons name names inductionHypothesis =>
      cases entry with
      | file content => cases found
      | directory entries =>
          rw [Entry.get?, Option.bind_eq_some_iff] at found
          obtain ⟨entry, here, found⟩ := found
          obtain ⟨listed, listedBelow⟩ := mem_belowEntries_of_lookup here
          obtain ⟨atPlace, belowPlace⟩ := inductionHypothesis found
          rw [below]
          refine ⟨fun _ => ?_, fun inner member => listedBelow _ (belowPlace inner member)⟩
          by_cases last : names = []
          · subst last
            obtain rfl := Option.some.inj found
            exact listed
          · exact listedBelow _ (atPlace last)

/-- At an absent place stands nothing, and elsewhere what stood there before. -/
theorem get?_without
    {entry : Entry} {place : List String}
    (stays : absent [] = false)
    (onlyFiles : OnlyFiles absent (below [] entry)) :
    (entry.without absent).get? place =
      if absent place then none
      else (entry.get? place).map (Entry.without fun rest => absent (place ++ rest)) := by
  induction place generalizing entry absent with
  | nil =>
      rw [stays]
      rfl
  | cons name names inductionHypothesis =>
      cases entry with
      | file content =>
          rw [Entry.without, Entry.get?, Option.map_none, ite_self]
      | directory entries =>
          rw [below] at onlyFiles
          rw [Entry.without, Entry.get?, Entry.get?, lookup_entriesWithout]
          cases found : entries.lookup name with
          | none =>
              rw [Option.map_none, ite_self, Option.bind_none, Option.map_none, ite_self]
          | some inner =>
              obtain ⟨listed, listedBelow⟩ := mem_belowEntries_of_lookup found
              have isFile : absent [name] = true → inner.isFile = true := onlyFiles _ listed
              have innerFiles : OnlyFiles (fun place => absent (name :: place)) (below [] inner) :=
                fun other member => onlyFiles _ (listedBelow other member)
              by_cases gone : absent [name] = true
              · -- a file stands at the absent place, and nothing below it
                cases inner with
                | directory entries => cases isFile gone
                | file content =>
                    rw [if_pos gone, Option.bind_none, Option.bind_some]
                    cases names with
                    | nil => rw [if_pos gone]
                    | cons second rest => rw [Entry.get?, Option.map_none, ite_self]
              · have innerStays : absent [name] = false := Bool.eq_false_iff.mpr gone
                rw [if_neg gone, Option.map_some, Option.bind_some, Option.bind_some]
                exact inductionHypothesis innerStays innerFiles

/-! ## Disks -/

/-- A file system without the entries at absent places. -/
def without (disk : Disk) (absent : List String → Bool) : Disk :=
  { disk with tree := disk.tree.without absent }

/-- The absent places are places of files. -/
structure Lacks (disk : Disk) (absent : List String → Bool) : Prop where
  root : absent [] = false
  onlyFiles : OnlyFiles absent (below [] disk.tree)

variable {disk : Disk}

theorem Lacks.get?_without (lacks : disk.Lacks absent) (place : List String) :
    (disk.without absent).tree.get? place =
      if absent place then none
      else (disk.tree.get? place).map (Entry.without fun rest => absent (place ++ rest)) :=
  Disk.get?_without lacks.root lacks.onlyFiles

/-- Below a place, too, what is absent are files. -/
theorem Lacks.onlyFiles_of_get?
    (lacks : disk.Lacks absent) {place : List String} {entry : Entry}
    (stands : disk.tree.get? place = some entry) :
    OnlyFiles (fun rest => absent (place ++ rest)) (below [] entry) := by
  intro found member gone
  exact lacks.onlyFiles (place ++ found.1, found.2) ((mem_below_of_get? stands).2 found member) gone

/-- A directory is not absent. -/
theorem Lacks.not_absent_of_directory
    (lacks : disk.Lacks absent) {place : List String} {entries : List (String × Entry)}
    (stands : disk.tree.get? place = some (.directory entries)) :
    absent place = false := by
  by_cases isRoot : place = []
  · rw [isRoot]
    exact lacks.root
  · apply Bool.eq_false_iff.mpr
    intro gone
    cases lacks.onlyFiles _ ((mem_below_of_get? stands).1 isRoot) gone

/-- A path leads where it led before, unless it went on from an absent file: then it is not found
where it was no directory. -/
theorem Lacks.walk_without
    (lacks : disk.Lacks absent) (place parts : List String) :
    walk (disk.without absent).tree place parts = walk disk.tree place parts ∨
      walk (disk.without absent).tree place parts = .error .notFound ∧
        walk disk.tree place parts = .error .notDirectory := by
  induction parts generalizing place with
  | nil => exact Or.inl rfl
  | cons part parts inductionHypothesis =>
      rw [walk, walk, lacks.get?_without]
      cases stands : disk.tree.get? place with
      | none =>
          rw [Option.map_none, ite_self]
          exact Or.inl rfl
      | some entry =>
          cases entry with
          | file content =>
              by_cases gone : absent place = true
              · rw [if_pos gone]
                exact Or.inr ⟨rfl, rfl⟩
              · rw [if_neg gone]
                exact Or.inl rfl
          | directory entries =>
              rw [lacks.not_absent_of_directory stands]
              simp only [Bool.false_eq_true, if_false, Option.map_some, Entry.without]
              split
              · exact Or.inl rfl
              · exact inductionHypothesis (step place part)

theorem Lacks.locate_without (lacks : disk.Lacks absent) (path : Path) :
    (disk.without absent).locate path = disk.locate path ∨
      (disk.without absent).locate path = .error .notFound ∧
        disk.locate path = .error .notDirectory :=
  lacks.walk_without _ path.parts

end Disk

end ApiDocs
