import ApiDocs.Proofs.Convert.Candidates

/-!
# What files can do to a conversion

A conversion of inputs that exist always finds its sources.  It returns unless the readme is not
text, a source holds the null character or is nested too deeply to be parsed, or one that parses
cannot be written.  Whatever else is wrong with files is reported, each once, and leaves the modules
of the others alone.
-/

namespace ApiDocs.Convert

open ApiDocs.Computation
open ApiDocs.Source (SourceFile)

/-! ## Inputs that exist -/

/-- Something stands where the input leads. -/
def InputExists (environment : Environment) (disk : Disk) (input : String) : Prop :=
  ∃ path ∈ environment.expandHome? (Path.ofString input), (disk.find? path).isSome

instance (environment : Environment) (disk : Disk) (input : String) :
    Decidable (InputExists environment disk input) :=
  inferInstanceAs (Decidable (∃ path ∈ _, _))

variable {environment : Environment} {disk : Disk}

theorem InputExists.isUsable {input : String} (stands : InputExists environment disk input) :
    IsUsable environment disk input := by
  obtain ⟨path, home, stands⟩ := stands
  obtain ⟨entry, found⟩ := Option.isSome_iff_exists.mp stands
  exact isUsable_of_find? home found

/-! ## The readme -/

/-- The readme is unset, or its name can be one and what it names is no file of bytes that are no
text. -/
def ReadmeUsable (options : Options) (disk : Disk) : Prop :=
  options.textOf .readme ≠ "" →
    '\x00' ∉ (options.textOf .readme).toList ∧
      ∀ fault, readText disk (Path.ofString (options.textOf .readme)) ≠ .error (.undecodable fault)

/-- The readme is set and cannot be opened. -/
def ReadmeMissing (options : Options) (disk : Disk) : Prop :=
  options.textOf .readme ≠ "" ∧
    ∃ fault, readText disk (Path.ofString (options.textOf .readme)) = .error (.file fault)

variable {options : Options}

theorem readText_error {path : Path} {failure : Failure}
    (fails : readText disk path = .error failure) :
    (∃ fault, failure = .file fault) ∨ ∃ fault, failure = .undecodable fault := by
  rw [readText] at fails
  split at fails
  · cases fails
    exact Or.inl ⟨_, rfl⟩
  · split at fails
    · cases fails
      exact Or.inr ⟨_, rfl⟩
    · cases fails

theorem exists_readmeOf_iff :
    (∃ readme notes, readmeOf options disk = .ok (readme, notes)) ↔ ReadmeUsable options disk := by
  rw [readmeOf]
  by_cases unset : options.textOf .readme = ""
  · rw [if_pos unset]
    exact iff_of_true ⟨_, _, rfl⟩ fun set => absurd unset set
  · rw [if_neg unset]
    split
    · rename_i holds
      rw [List.contains_iff_mem] at holds
      exact iff_of_false (by rintro ⟨_, _, read⟩; cases read) fun usable => (usable unset).1 holds
    · rename_i named
      rw [List.contains_iff_mem] at named
      cases reads : readText disk (Path.ofString (options.textOf .readme)) with
      | ok text =>
          refine iff_of_true ⟨_, _, rfl⟩ fun _ => ⟨named, fun fault fails => ?_⟩
          cases reads.symm.trans fails
      | error failure =>
          rcases readText_error reads with ⟨fault, rfl⟩ | ⟨fault, rfl⟩
          · refine iff_of_true ⟨_, _, rfl⟩ fun _ => ⟨named, fun fault fails => ?_⟩
            cases reads.symm.trans fails
          · exact iff_of_false (by rintro ⟨_, _, read⟩; cases read) fun usable =>
              (usable unset).2 fault reads

/-- A readme that cannot be opened is empty and reported once; any other is reported never. -/
theorem readmeOf_eq_ok
    {readme : String} {notes : List (Level × String)}
    (read : readmeOf options disk = .ok (readme, notes)) :
    (ReadmeMissing options disk → readme = "" ∧ ∃ message, notes = [(.warn, message)]) ∧
      (¬ ReadmeMissing options disk → notes = []) := by
  rw [readmeOf] at read
  split at read
  · rename_i unset
    cases read
    exact ⟨fun missing => absurd unset missing.1, fun _ => rfl⟩
  · rename_i set
    split at read
    · cases read
    · split at read
      · rename_i text reads
        cases read
        refine ⟨?_, fun _ => rfl⟩
        rintro ⟨_, fault, fails⟩
        rw [reads] at fails
        cases fails
      · rename_i fault reads
        cases read
        exact ⟨fun _ => ⟨rfl, _, rfl⟩, fun readable => absurd ⟨set, fault, reads⟩ readable⟩
      · cases read

/-! ## Conversions -/

variable {Observed : Type} {converter : Converter Observed}

/-- What bad files leave of a conversion: the modules of the sources that parse, an error for each
other source and each input that is none, and a warning for a readme that cannot be opened.  Were
any of the files absent that do not parse, the modules would be the same. -/
structure Tolerates (converter : Converter Observed) (inputs : List String)
    (sources : List SourceInput) (key : Nat) (after : Converter Observed) : Prop where
  tree : (after.model.project key).tree =
    .node (projectDeclaration converter.options)
      (moduleTrees converter.environment.platform converter.options converter.disk sources)
  errors : after.logger.errors = converter.logger.errors +
    (badSources converter.environment.platform converter.disk sources +
      badInputs converter.environment converter.disk inputs sources)
  missingReadme : ReadmeMissing converter.options converter.disk →
    (after.model.project key).readme = "" ∧
      after.logger.warnings = converter.logger.warnings + 1
  warnings : ¬ ReadmeMissing converter.options converter.disk →
    after.logger.warnings = converter.logger.warnings
  absence : ∀ absent, converter.disk.tree.WellNamed → converter.disk.Lacks absent →
    (∀ source ∈ sources, absent (converter.disk.resolve source.file) = true →
      source.parse? converter.environment.platform converter.disk = none) →
    ∃ otherKey other,
      Returns (convert inputs) { converter with disk := converter.disk.without absent }
          otherKey other ∧
        (other.model.project otherKey).tree = (after.model.project key).tree

theorem converted_tolerates
    (noListeners : NoListeners converter.hooks)
    {inputs : List String} {sources : List SourceInput} {readme : String}
    {notes : List (Level × String)}
    (proceeds : Proceeds converter inputs sources readme notes) :
    Tolerates converter inputs sources converter.model.size
      (converted converter inputs sources readme notes) := by
  obtain ⟨decided, writable⟩ := failure?_eq_none_iff.mp proceeds.sources
  obtain ⟨missing, present⟩ := readmeOf_eq_ok proceeds.readme
  have project := converted_project converter inputs sources readme notes
  rw [trees_outlines sources] at project
  have noErrors : (notes.countP fun message => message.1 = .error) = 0 := by
    by_cases isMissing : ReadmeMissing converter.options converter.disk
    · obtain ⟨_, message, rfl⟩ := missing isMissing
      rfl
    · rw [present isMissing]
      rfl
  have warnings : (converted converter inputs sources readme notes).logger.warnings =
      converter.logger.warnings + notes.countP fun message => message.1 = .warn := by
    rw [converted, Logger.warnings_logAll, countP_conversionMessages decided]
    rfl
  refine ⟨by rw [project], ?_, ?_, ?_, ?_⟩
  · rw [errors_converted decided, noErrors, Nat.zero_add, Nat.add_comm (badInputs ..)]
  · intro isMissing
    obtain ⟨rfl, message, rfl⟩ := missing isMissing
    exact ⟨by rw [project], warnings⟩
  · intro isPresent
    rw [warnings, present isPresent]
    rfl
  · intro absent wellNamed lacks bad
    let other : Converter Observed := { converter with disk := converter.disk.without absent }
    let kept := sources.filter (SourceInput.isKept converter.disk absent)
    obtain ⟨otherReadme, otherNotes, readable⟩ := readmeOf_without lacks proceeds.readme
    have expanded := expandInputs_without lacks wellNamed proceeds.inputs
    have keptDecided : ∀ source ∈ kept, source.Decided other.environment.platform other.disk := by
      intro source member
      obtain ⟨found, isKept⟩ := List.mem_filter.mp member
      exact decided_without lacks isKept (decided source found)
    have keptWritable : AllWritable other.environment.platform other.options other.disk kept := by
      intro source member file parses
      obtain ⟨found, isKept⟩ := List.mem_filter.mp member
      exact writable source found file ((parse?_without lacks isKept).symm.trans parses)
    have otherProceeds : Proceeds other inputs kept otherReadme otherNotes :=
      ⟨readable, expanded, failure?_eq_none_iff.mpr ⟨keptDecided, keptWritable⟩⟩
    have otherProject := converted_project other inputs kept otherReadme otherNotes
    rw [trees_outlines kept] at otherProject
    have sameTrees := moduleTrees_without lacks converter.options bad
    refine ⟨_, _, convert_run (by exact noListeners) otherProceeds, ?_⟩
    rw [project, otherProject]
    exact congrArg (Tree.node (projectDeclaration converter.options)) sameTrees

section Expanded

variable {inputs : List String} {sources : List SourceInput}
variable (noListeners : NoListeners converter.hooks)
variable (expanded : (expandInputs converter.environment converter.disk converter.logger inputs).1 =
  .ok sources)
include noListeners expanded

theorem exists_returns_iff :
    (∃ key after, Returns (convert inputs) converter key after) ↔
      ReadmeUsable converter.options converter.disk ∧
        (∀ source ∈ sources, source.Decided converter.environment.platform converter.disk) ∧
        AllWritable converter.environment.platform converter.options converter.disk sources := by
  constructor
  · rintro ⟨key, after, returns⟩
    obtain ⟨others, readme, notes, proceeds, _⟩ := (convert_returns_iff noListeners).mp returns
    obtain rfl : sources = others := Except.ok.inj (expanded.symm.trans proceeds.inputs)
    exact ⟨exists_readmeOf_iff.mp ⟨readme, notes, proceeds.readme⟩,
      failure?_eq_none_iff.mp proceeds.sources⟩
  · rintro ⟨usable, sound⟩
    obtain ⟨readme, notes, readable⟩ := exists_readmeOf_iff.mpr usable
    exact ⟨_, _, convert_run noListeners ⟨readable, expanded, failure?_eq_none_iff.mpr sound⟩⟩

theorem tolerates_of_returns
    {key : Nat} {after : Converter Observed}
    (returns : Returns (convert inputs) converter key after) :
    Tolerates converter inputs sources key after := by
  obtain ⟨others, readme, notes, proceeds, rfl, rfl⟩ :=
    (convert_returns_iff noListeners).mp returns
  obtain rfl : sources = others := Except.ok.inj (expanded.symm.trans proceeds.inputs)
  exact converted_tolerates noListeners proceeds

end Expanded

/-- What a file contains does not end a conversion of inputs that exist, unless the readme is not
text, or a source is neither parsed nor rejected, or parses and cannot be written. -/
theorem conversion_survives_files
    (noListeners : NoListeners converter.hooks)
    {inputs : List String}
    (exist : ∀ input ∈ inputs, InputExists converter.environment converter.disk input) :
    ∃ sources,
      (expandInputs converter.environment converter.disk converter.logger inputs).1 =
          .ok sources ∧
        ((∃ key after, Returns (convert inputs) converter key after) ↔
          ReadmeUsable converter.options converter.disk ∧
            (∀ source ∈ sources, source.Decided converter.environment.platform converter.disk) ∧
            AllWritable converter.environment.platform converter.options converter.disk sources) ∧
        ∀ key after, Returns (convert inputs) converter key after →
          Tolerates converter inputs sources key after := by
  obtain ⟨sources, expanded⟩ := (exists_expandFrom_iff ⟨[], []⟩ converter.logger).mpr
    fun input member => (exist input member).isUsable
  exact ⟨sources, expanded, exists_returns_iff noListeners expanded,
    fun _ _ => tolerates_of_returns noListeners expanded⟩

theorem converterOf_wellNamed
    {files : List (String × List UInt8)} (named : ∀ file ∈ files, IsName file.1) :
    (converterOf files).disk.tree.WellNamed := by
  refine .directory _ ?_ ?_
  · intro pair member
    obtain ⟨file, fileMember, rfl⟩ := List.mem_map.mp member
    exact named file fileMember
  · intro pair member
    obtain ⟨file, _, rfl⟩ := List.mem_map.mp member
    exact .file file.2

/-- Two bad files cost two errors, and one that is no source another; without the bad files the
project is the same. -/
theorem conversion_survives_files_mixed :
    let start := converterOf mixedFiles
    let inputs := mixedFiles.map Prod.fst
    let absent (place : List String) : Bool := place == ["broken.py"] || place == ["binary.py"]
    ∃ key after otherKey other, Returns (convert inputs) start key after ∧
      after.logger.errors = 3 ∧
      Returns (convert inputs) { start with disk := start.disk.without absent } otherKey other ∧
      (other.model.project otherKey).tree = (after.model.project key).tree := by
  intro start inputs absent
  obtain ⟨sources, expanded, returns, tolerates⟩ :=
    conversion_survives_files (converterOf_noListeners mixedFiles)
      (by decide +kernel : ∀ input ∈ inputs, InputExists start.environment start.disk input)
  let source (name : String) : SourceInput := ⟨⟨"", []⟩, ⟨"", [name]⟩⟩
  have found : (expandInputs start.environment start.disk start.logger inputs).1 =
      .ok [source "first.py", source "broken.py", source "binary.py", source "second.py"] :=
    eq_ok_of_toOption (by decide +kernel)
  obtain rfl := Except.ok.inj (expanded.symm.trans found)
  obtain ⟨key, after, converted⟩ := returns.mpr
    ⟨fun set => absurd rfl set, by decide +kernel, by decide +kernel⟩
  have result := tolerates key after converted
  have lacks : start.disk.Lacks absent := ⟨rfl, by decide +kernel⟩
  have wellNamed : start.disk.tree.WellNamed := converterOf_wellNamed (by decide +kernel)
  obtain ⟨otherKey, other, again, same⟩ := result.absence absent wellNamed lacks
    (by decide +kernel)
  exact ⟨key, after, otherKey, other, converted, result.errors.trans (by decide +kernel), again,
    same⟩

/-- A source with the null character, before one without it. -/
def nullFiles : List (String × List UInt8) :=
  [("m.py", Text.encode "x: int\x00\n".toList), ("n.py", Text.encode "def g(): pass\n".toList)]

/-- Not every content of files lets a conversion of inputs that exist return. -/
theorem not_conversion_survives_every_file :
    ¬ ∀ (converter : Converter Unit) (inputs : List String),
      NoListeners converter.hooks →
      (∀ input ∈ inputs, InputExists converter.environment converter.disk input) →
        ∃ key after, Returns (convert inputs) converter key after := by
  intro survives
  let start := converterOf nullFiles
  let first : SourceInput := ⟨⟨"", []⟩, ⟨"", ["m.py"]⟩⟩
  let second : SourceInput := ⟨⟨"", []⟩, ⟨"", ["n.py"]⟩⟩
  have noListeners : NoListeners start.hooks := converterOf_noListeners nullFiles
  have expanded : (expandInputs start.environment start.disk start.logger ["m.py", "n.py"]).1 =
      .ok [first, second] := eq_ok_of_toOption (by decide +kernel)
  obtain ⟨key, after, returns⟩ := survives start ["m.py", "n.py"] noListeners (by decide +kernel)
  obtain ⟨sources, _, _, proceeds, _⟩ := (convert_returns_iff noListeners).mp returns
  obtain rfl := Except.ok.inj (expanded.symm.trans proceeds.inputs)
  have decided := (failure?_eq_none_iff.mp proceeds.sources).1 first List.mem_cons_self
  revert decided
  decide +kernel

end ApiDocs.Convert
