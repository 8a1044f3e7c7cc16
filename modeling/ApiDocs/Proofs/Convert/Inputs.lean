import ApiDocs.Convert.Inputs
import ApiDocs.Proofs.Files.Changes
import ApiDocs.Proofs.Files.Names

/-!
# Where sources come from

Every source that inputs expand to belongs to one of the inputs: it is the input itself, or it
stands below the directory that the input names.  Its name ends as names of sources do.
-/

namespace ApiDocs.Convert

variable {environment : Environment} {disk : Disk} {source : SourceInput}

/-- A source belongs to the path of an input: the path is a file and the source itself, or it is
a directory, and the source stands at a place below it. -/
inductive BelongsTo (disk : Disk) (path : Path) (source : SourceInput) : Prop where
  | self (ends : EndsIn sourceEnding path.parts) (same : source.file = path)
  | below (entries : List (String × ApiDocs.Entry)) (relative : List String)
      (entry : ApiDocs.Entry)
      (stands : disk.tree.get? (disk.resolve path) = some (.directory entries))
      (found : (relative, entry) ∈ Disk.below [] (.directory entries))
      (ends : EndsIn sourceEnding relative)
      (same : source.file = { path with parts := path.parts ++ relative })

theorem endsIn_of_isSourcePlace
    {relative : List String}
    (isSource : isSourcePlace relative = true) :
    EndsIn sourceEnding relative := by
  rw [isSourcePlace, Bool.and_eq_true, Option.any_eq_true_iff_get] at isSource
  obtain ⟨⟨present, ends⟩, _⟩ := isSource
  exact ⟨relative.getLast?.get present, (Option.some_get present).symm, ends⟩

theorem endsIn_of_suffix
    {path : Path} {ending : String}
    (nonempty : ending ≠ "")
    (suffix : path.suffix = ending) :
    EndsIn ending path.parts := by
  rw [Path.suffix] at suffix
  split at suffix
  · rename_i start found
    cases last : path.parts.getLast? with
    | none =>
        rw [Path.name, last] at found
        cases found
    | some name =>
        rw [Path.name, last, Option.getD_some] at suffix
        refine ⟨name, last, ?_⟩
        rw [endsWith_iff, ← suffix, String.toList_ofList]
        exact List.drop_suffix start name.toList
  · exact absurd suffix.symm nonempty

theorem belongsTo_of_mem_candidates
    {path : Path} {sources : List SourceInput}
    (expands : candidates? disk path = .ok (some sources))
    (member : source ∈ sources) :
    BelongsTo disk path source := by
  rw [candidates?.eq_def] at expands
  split at expands
  · cases expands
  · cases expands
  · rename_i place leads
    obtain rfl := Disk.resolve_of_locate leads
    split at expands
    · rename_i entries stands
      obtain rfl := Option.some.inj (Except.ok.inj expands)
      obtain ⟨relative, listed, rfl⟩ := List.mem_map.mp member
      rw [sourcesBelow, List.mem_mergeSort, List.mem_filter, List.mem_map] at listed
      obtain ⟨⟨⟨relative', entry⟩, found, rfl⟩, isSource⟩ := listed
      exact .below entries relative' entry stands found (endsIn_of_isSourcePlace isSource) rfl
    · split at expands
      · rename_i suffix
        obtain rfl := Option.some.inj (Except.ok.inj expands)
        obtain rfl := List.mem_singleton.mp member
        exact .self (endsIn_of_suffix (by decide) suffix) rfl
      · cases expands
    · cases expands

theorem mem_add {found : Found} {added : SourceInput}
    (member : source ∈ (found.add disk added).sources) :
    source ∈ found.sources ∨ source = added := by
  rw [Found.add] at member
  split at member
  · exact Or.inl member
  · rcases List.mem_append.mp member with old | new
    · exact Or.inl old
    · exact Or.inr (List.mem_singleton.mp new)

theorem mem_foldl_add
    {found : Found} {sources : List SourceInput}
    (member : source ∈ (sources.foldl (Found.add disk) found).sources) :
    source ∈ found.sources ∨ source ∈ sources := by
  induction sources generalizing found with
  | nil => exact Or.inl member
  | cons first rest inductionHypothesis =>
      rcases inductionHypothesis member with before | later
      · rcases mem_add before with old | rfl
        · exact Or.inl old
        · exact Or.inr List.mem_cons_self
      · exact Or.inr (List.mem_cons_of_mem first later)

/-- A source belongs to one of the inputs, after the home directory has been put in. -/
def BelongsToOne (environment : Environment) (disk : Disk) (inputs : List String)
    (source : SourceInput) : Prop :=
  ∃ input ∈ inputs, ∃ path, environment.expandHome? (Path.ofString input) = some path ∧
    BelongsTo disk path source

theorem BelongsToOne.cons
    {inputs : List String}
    (belongs : BelongsToOne environment disk inputs source)
    (input : String) :
    BelongsToOne environment disk (input :: inputs) source := by
  obtain ⟨other, member, belongs⟩ := belongs
  exact ⟨other, List.mem_cons_of_mem input member, belongs⟩

theorem mem_expandFrom
    {found : Found} {logger : Logger} {inputs : List String} {sources : List SourceInput}
    (expands : (expandFrom environment disk found logger inputs).1 = .ok sources)
    (member : source ∈ sources) :
    source ∈ found.sources ∨ BelongsToOne environment disk inputs source := by
  induction inputs generalizing found logger with
  | nil =>
      obtain rfl := Except.ok.inj expands
      exact Or.inl member
  | cons input inputs inductionHypothesis =>
      rw [expandFrom] at expands
      split at expands
      · cases expands
      · rename_i path expanded
        split at expands
        · cases expands
        · rename_i candidates isCandidates
          rcases inductionHypothesis expands with before | later
          · rcases mem_foldl_add before with old | new
            · exact Or.inl old
            · exact Or.inr ⟨input, List.mem_cons_self, path, expanded,
                belongsTo_of_mem_candidates isCandidates new⟩
          · exact Or.inr (later.cons input)
        · exact (inductionHypothesis expands).imp_right fun later => later.cons input

/-- Every source belongs to one of the inputs. -/
theorem belongsToOne_of_mem_expandInputs
    {logger : Logger} {inputs : List String} {sources : List SourceInput}
    (expands : (expandInputs environment disk logger inputs).1 = .ok sources)
    (member : source ∈ sources) :
    BelongsToOne environment disk inputs source := by
  rcases mem_expandFrom expands member with absent | belongs
  · cases absent
  · exact belongs

theorem ne_dots_of_endsWith {name : String} (ends : name.endsWith sourceEnding = true) :
    name ≠ ".." := by
  rintro rfl
  rw [endsWith_iff] at ends
  exact absurd ends (by decide)

theorem BelongsTo.endsIn {path : Path} (belongs : BelongsTo disk path source) :
    EndsIn sourceEnding (disk.resolve source.file) := by
  have partsEnd : EndsIn sourceEnding source.file.parts := by
    cases belongs with
    | self ends same => rwa [same]
    | below entries relative entry stands found ends same =>
        rw [same]
        exact ends.append path.parts
  obtain ⟨name, last, nameEnds⟩ := partsEnd
  exact ⟨name, Disk.getLast?_resolve last (ne_dots_of_endsWith nameEnds) disk, nameEnds⟩

/-- In a well named file system a source below a directory is at a place below that of the
directory. -/
theorem BelongsTo.resolve_eq
    {path : Path} (wellNamed : disk.tree.WellNamed)
    (belongs : BelongsTo disk path source)
    (different : source.file ≠ path) :
    ∃ entries relative, disk.tree.get? (disk.resolve path) = some (.directory entries) ∧
      disk.resolve source.file = disk.resolve path ++ relative := by
  cases belongs with
  | self ends same => exact absurd same different
  | below entries relative entry stands found ends same =>
      have named := (wellNamed.of_get? stands).isName_of_mem_below
        (fun name absent => absurd absent List.not_mem_nil) found
      refine ⟨entries, relative, stands, ?_⟩
      rw [same, Disk.resolve_append_parts fun name member => (named name member).ne_dots]

end ApiDocs.Convert
