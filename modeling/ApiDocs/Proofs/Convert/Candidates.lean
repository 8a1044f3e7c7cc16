import ApiDocs.Proofs.Convert.Absence
import ApiDocs.Proofs.Files.Listing

/-!
# What an input contributes

A directory contributes the sources below it, in the order of their places; a source file
contributes itself; any other input contributes nothing, and is no input at all.
-/

namespace ApiDocs.Convert

variable {environment : Environment} {disk : Disk} {path : Path} {place : List String}

/-! ## Places of sources -/

/-- The last name ends as names of sources do, and none of the directories before it is hidden or
a cache. -/
structure NamesSource (place : List String) : Prop where
  ends : EndsIn sourceEnding place
  visible : ∀ name ∈ place.dropLast, name ≠ "__pycache__" ∧ name.startsWith "." = false

theorem isSourcePlace_iff : isSourcePlace place = true ↔ NamesSource place := by
  constructor
  · intro isSource
    refine ⟨endsIn_of_isSourcePlace isSource, fun name member => ?_⟩
    rw [isSourcePlace, Bool.and_eq_true, Bool.not_eq_true', List.any_eq_false] at isSource
    have notIgnored := isSource.2 name member
    simpa [isIgnoredDirectory] using notIgnored
  · rintro ⟨⟨name, last, ends⟩, visible⟩
    rw [isSourcePlace, Bool.and_eq_true, Bool.not_eq_true', List.any_eq_false]
    refine ⟨by simp [last, ends], fun name member => ?_⟩
    have notIgnored := visible name member
    simpa [isIgnoredDirectory] using notIgnored

instance (place : List String) : Decidable (NamesSource place) :=
  decidable_of_iff _ isSourcePlace_iff

theorem NamesSource.ne_nil (names : NamesSource place) : place ≠ [] := by
  rintro rfl
  obtain ⟨name, last, _⟩ := names.ends
  cases last

variable {entry : ApiDocs.Entry}

theorem mem_sourcesBelow (distinct : entry.DistinctlyNamed) :
    place ∈ sourcesBelow entry ↔ NamesSource place ∧ (entry.get? place).isSome = true := by
  rw [sourcesBelow, List.mem_mergeSort, List.mem_filter, isSourcePlace_iff, List.mem_map, and_comm,
    Option.isSome_iff_exists]
  apply and_congr_right
  intro names
  constructor
  · rintro ⟨found, listed, rfl⟩
    exact ⟨found.2, ((Disk.mem_below_iff distinct).mp listed).2⟩
  · rintro ⟨reached, stands⟩
    exact ⟨(place, reached), (Disk.mem_below_iff distinct).mpr ⟨names.ne_nil, stands⟩, rfl⟩

theorem sourcesBelow_increasing (distinct : entry.DistinctlyNamed) :
    (sourcesBelow entry).Pairwise fun first second => first < second := by
  have once : (sourcesBelow entry).Nodup := by
    rw [sourcesBelow, (List.mergeSort_perm _ _).nodup_iff]
    exact (Disk.places_nodup distinct).filter _
  have sorted := mergeSort_sorted (((Disk.below [] entry).map Prod.fst).filter isSourcePlace)
  apply (sorted.and once).imp
  rintro first second ⟨inOrder, different⟩
  exact lt_of_le_of_ne (precedes_iff.mp inOrder) different

/-! ## Candidates -/

/-- The source at a place below a directory. -/
def SourceInput.below (directory : Path) (place : List String) : SourceInput :=
  { root := directory, file := { directory with parts := directory.parts ++ place } }

/-- A path is a directory or a source file. -/
def IsInput (disk : Disk) (path : Path) : Prop :=
  disk.isDirectory path = true ∨ disk.isFile path = true ∧ path.suffix = sourceEnding

instance (disk : Disk) (path : Path) : Decidable (IsInput disk path) :=
  inferInstanceAs (Decidable (_ ∨ _))

/-- What the path of an input contributes. -/
inductive Contributes (disk : Disk) (path : Path) : List SourceInput → Prop where
  | directory (places : List (List String))
      (stands : disk.isDirectory path = true)
      (increasing : places.Pairwise fun first second => first < second)
      (listed : ∀ place, place ∈ places ↔
        NamesSource place ∧ (disk.tree.get? (disk.resolve path ++ place)).isSome = true) :
      Contributes disk path (places.map (SourceInput.below path))
  | file (stands : disk.isFile path = true) (suffix : path.suffix = sourceEnding) :
      Contributes disk path [{ root := path.parent, file := path }]
  | nothing (neither : ¬ IsInput disk path) : Contributes disk path []

theorem not_isInput_of_find?_eq_none (nothing : disk.find? path = none) : ¬ IsInput disk path := by
  rw [IsInput, Disk.isDirectory, Disk.isFile, nothing]
  simp

theorem isInput_of_directory
    {entries : List (String × ApiDocs.Entry)}
    (found : disk.find? path = some (.directory entries)) :
    IsInput disk path :=
  Or.inl (Disk.isDirectory_iff.mpr ⟨entries, found⟩)

theorem isInput_iff_of_file {content : List UInt8} (found : disk.find? path = some (.file content)) :
    IsInput disk path ↔ path.suffix = sourceEnding := by
  rw [IsInput, Disk.isDirectory, Disk.isFile, found]
  simp [ApiDocs.Entry.isDirectory, ApiDocs.Entry.isFile]

theorem contributes_of_directory
    (distinct : disk.tree.DistinctlyNamed)
    {entries : List (String × ApiDocs.Entry)}
    (found : disk.find? path = some (.directory entries)) :
    Contributes disk path
      ((sourcesBelow (.directory entries)).map (SourceInput.below path)) := by
  obtain ⟨_, stands⟩ := Disk.find?_eq_some_iff.mp found
  have innerDistinct := distinct.of_get? stands
  refine .directory _ (Disk.isDirectory_iff.mpr ⟨entries, found⟩)
    (sourcesBelow_increasing innerDistinct) fun place => ?_
  rw [mem_sourcesBelow innerDistinct, ApiDocs.Entry.get?_append, stands, Option.bind_some]

/-- What is found for a path is what it contributes; nothing is found where it is no input. -/
theorem contributes_of_candidates?
    (distinct : disk.tree.DistinctlyNamed)
    {sources? : Option (List SourceInput)}
    (finds : candidates? disk path = .ok sources?) :
    Contributes disk path (sources?.getD []) ∧ (sources? = none ↔ ¬ IsInput disk path) := by
  rw [candidates?.eq_def] at finds
  -- the path leads nowhere, or to a directory, to a file or to nothing
  split at finds
  · cases finds
  · rename_i problem _ leads
    have neither : ¬ IsInput disk path := not_isInput_of_find?_eq_none (by rw [Disk.find?, leads])
    cases finds
    exact ⟨.nothing neither, iff_of_true rfl neither⟩
  · rename_i place leads
    obtain rfl := Disk.resolve_of_locate leads
    split at finds <;> rename_i stands
    · rename_i entries
      have found := Disk.find?_eq_some_iff.mpr ⟨leads, stands⟩
      cases finds
      refine ⟨contributes_of_directory distinct found, iff_of_false (by simp) ?_⟩
      exact not_not_intro (isInput_of_directory found)
    · have found := Disk.find?_eq_some_iff.mpr ⟨leads, stands⟩
      by_cases suffix : path.suffix = sourceEnding
      · rw [if_pos suffix] at finds
        cases finds
        refine ⟨.file (Disk.isFile_iff.mpr ⟨_, found⟩) suffix, iff_of_false (by simp) ?_⟩
        exact not_not_intro ((isInput_iff_of_file found).mpr suffix)
      · rw [if_neg suffix] at finds
        have neither : ¬ IsInput disk path := fun accepted =>
          suffix ((isInput_iff_of_file found).mp accepted)
        cases finds
        exact ⟨.nothing neither, iff_of_true rfl neither⟩
    · have neither : ¬ IsInput disk path :=
        not_isInput_of_find?_eq_none (by rw [Disk.find?, leads]; exact stands)
      cases finds
      exact ⟨.nothing neither, iff_of_true rfl neither⟩

/-- Only a name that no entry can have is a fault. -/
theorem exists_candidates?_iff :
    (∃ sources?, candidates? disk path = .ok sources?) ↔ ¬ disk.Overlong path := by
  rw [← Disk.locate_eq_nameTooLong_iff, candidates?.eq_def]
  cases disk.locate path with
  | error problem => cases problem <;> simp
  | ok place =>
      simp only [reduceCtorEq, not_false_eq_true, iff_true]
      split
      · exact ⟨_, rfl⟩
      · split <;> exact ⟨_, rfl⟩
      · exact ⟨_, rfl⟩

/-! ## Inputs that can be used -/

variable {inputs : List String}

/-- The home directory of an input is known, and no name in it is too long to be asked for. -/
def IsUsable (environment : Environment) (disk : Disk) (input : String) : Prop :=
  ∃ path ∈ environment.expandHome? (Path.ofString input), ¬ disk.Overlong path

theorem isUsable_iff {input : String} :
    IsUsable environment disk input ↔
      ∃ path sources?, environment.expandHome? (Path.ofString input) = some path ∧
        candidates? disk path = .ok sources? := by
  constructor
  · rintro ⟨path, home, short⟩
    obtain ⟨sources?, finds⟩ := exists_candidates?_iff.mpr short
    exact ⟨path, sources?, home, finds⟩
  · rintro ⟨path, sources?, home, finds⟩
    exact ⟨path, home, exists_candidates?_iff.mp ⟨sources?, finds⟩⟩

theorem exists_expandFrom_iff (found : Found) (logger : Logger) :
    (∃ sources, (expandFrom environment disk found logger inputs).1 = .ok sources) ↔
      ∀ input ∈ inputs, IsUsable environment disk input := by
  induction inputs generalizing found with
  | nil => exact iff_of_true ⟨found.sources, rfl⟩ (List.forall_mem_nil _)
  | cons input inputs inductionHypothesis =>
      rw [List.forall_mem_cons, isUsable_iff]
      constructor
      · rintro ⟨sources, expanded⟩
        cases home : environment.expandHome? (Path.ofString input) with
        | none =>
            rw [expandFrom] at expanded
            simp only [home] at expanded
            cases expanded
        | some path =>
            cases finds : candidates? disk path with
            | error fault =>
                rw [expandFrom] at expanded
                simp only [home, finds] at expanded
                cases expanded
            | ok sources? =>
                rw [expandFrom_cons home finds] at expanded
                exact ⟨⟨path, sources?, rfl, finds⟩,
                  (inductionHypothesis _).mp ⟨sources, expanded⟩⟩
      · rintro ⟨⟨path, sources?, home, finds⟩, rest⟩
        rw [expandFrom_cons home finds]
        exact (inductionHypothesis _).mpr rest

theorem isUsable_of_find? {input : String}
    (home : environment.expandHome? (Path.ofString input) = some path)
    (found : disk.find? path = some entry) :
    IsUsable environment disk input :=
  ⟨path, home, Disk.not_overlong_of_find? found⟩

end ApiDocs.Convert
