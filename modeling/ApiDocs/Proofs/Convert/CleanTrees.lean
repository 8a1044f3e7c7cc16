import ApiDocs.Proofs.Convert.BadFiles
import ApiDocs.Proofs.Convert.Expansion

/-!
# Conversions of directories

Where every file that is seen from the inputs parses, a conversion of directories has one module for
each of these files.  What else it lists as a source is directories whose names end as those of
sources do, and each of them is an error.
-/

namespace ApiDocs.Convert

open ApiDocs.Computation

variable {environment : Environment} {disk : Disk} {input : String} {inputs : List String}
variable {path : Path} {place : List String} {source : SourceInput} {sources : List SourceInput}
variable {entry : ApiDocs.Entry}

/-! ## Reading -/

theorem isFile_of_readText {text : List Char} (reads : readText disk path = .ok text) :
    disk.isFile path = true := by
  rw [readText, Disk.read] at reads
  cases leads : disk.locate path with
  | error problem =>
      rw [leads] at reads
      cases reads
  | ok place =>
      rw [Disk.isFile, Disk.find?, leads]
      rw [leads] at reads
      simp only at reads ⊢
      cases stands : disk.tree.get? place with
      | none =>
          rw [stands] at reads
          cases reads
      | some entry =>
          rw [stands] at reads
          cases entry with
          | directory entries => cases reads
          | file content => rfl

theorem isFile_of_parse?
    {platform : Platform} (parses : (source.parse? platform disk).isSome = true) :
    disk.isFile source.file = true := by
  rw [SourceInput.parse?] at parses
  cases reads : readText disk source.file with
  | error failure =>
      rw [reads] at parses
      cases parses
  | ok text => exact isFile_of_readText reads

/-- What is no file has no text to be parsed. -/
theorem decided_of_not_isFile
    (platform : Platform) (noFile : ¬ disk.isFile source.file = true) :
    source.Decided platform disk :=
  fun _ reads => absurd (isFile_of_readText reads) noFile

/-! ## What is seen from inputs -/

/-- An input is a directory, after the home directory has been put in. -/
def IsDirectoryInput (environment : Environment) (disk : Disk) (input : String) : Prop :=
  ∃ path ∈ environment.expandHome? (Path.ofString input), disk.isDirectory path = true

instance (environment : Environment) (disk : Disk) (input : String) :
    Decidable (IsDirectoryInput environment disk input) :=
  inferInstanceAs (Decidable (∃ path ∈ _, _))

/-- An entry below one of the inputs is seen as a source, whether it is a file or a directory. -/
inductive Sees (environment : Environment) (disk : Disk) (inputs : List String) :
    SourceInput → ApiDocs.Entry → Prop where
  | below {input : String} {path : Path} {place : List String} {entry : ApiDocs.Entry}
      (member : input ∈ inputs)
      (home : environment.expandHome? (Path.ofString input) = some path)
      (names : NamesSource place)
      (stands : disk.tree.get? (disk.resolve path ++ place) = some entry) :
      Sees environment disk inputs (.below path place) entry

theorem sees_cons :
    Sees environment disk (input :: inputs) source entry ↔
      Sees environment disk [input] source entry ∨ Sees environment disk inputs source entry := by
  constructor
  · rintro ⟨member, home, names, stands⟩
    rcases List.mem_cons.mp member with rfl | inRest
    · exact Or.inl (.below List.mem_cons_self home names stands)
    · exact Or.inr (.below inRest home names stands)
  · rintro (⟨member, home, names, stands⟩ | ⟨member, home, names, stands⟩)
    · rw [List.mem_singleton.mp member] at home
      exact .below List.mem_cons_self home names stands
    · exact .below (List.mem_cons_of_mem _ member) home names stands

/-- What is seen stands at the place of the source. -/
theorem Sees.stands
    (sees : Sees environment disk inputs source entry)
    (wellNamed : disk.tree.WellNamed) :
    disk.tree.get? (source.place disk) = some entry := by
  obtain ⟨_, _, _, stands⟩ := sees
  rename_i path place _ _ _
  have within := stands
  rw [ApiDocs.Entry.get?_append, Option.bind_eq_some_iff] at within
  obtain ⟨reached, here, further⟩ := within
  have named := (wellNamed.of_get? here).isName_of_get? further
  have isPlace : (SourceInput.below path place).place disk = disk.resolve path ++ place :=
    Disk.resolve_append_parts (fun name member => (named name member).ne_dots) disk path
  rw [isPlace]
  exact stands

theorem Sees.exists_content
    (sees : Sees environment disk inputs source entry)
    (wellNamed : disk.tree.WellNamed)
    (isFile : disk.isFile source.file = true) :
    ∃ content, entry = .file content := by
  obtain ⟨content, found⟩ := Disk.isFile_iff.mp isFile
  obtain ⟨_, stands⟩ := Disk.find?_eq_some_iff.mp found
  exact ⟨content, Option.some.inj ((sees.stands wellNamed).symm.trans stands)⟩

theorem Contributes.mem_iff
    {candidates : List SourceInput}
    (contributes : Contributes disk path candidates)
    (home : environment.expandHome? (Path.ofString input) = some path)
    (isDirectory : disk.isDirectory path = true) :
    source ∈ candidates ↔ ∃ entry, Sees environment disk [input] source entry := by
  cases contributes with
  | directory places _ _ listed =>
      rw [List.mem_map]
      constructor
      · rintro ⟨place, member, rfl⟩
        obtain ⟨names, stands⟩ := (listed place).mp member
        obtain ⟨entry, found⟩ := Option.isSome_iff_exists.mp stands
        exact ⟨entry, .below List.mem_cons_self home names found⟩
      · rintro ⟨entry, member, otherHome, names, stands⟩
        rename_i input otherPath place
        rw [List.mem_singleton.mp member] at otherHome
        obtain rfl := Option.some.inj (home.symm.trans otherHome)
        exact ⟨place, (listed place).mpr ⟨names, Option.isSome_of_eq_some stands⟩, rfl⟩
  | file isFile _ =>
      obtain ⟨entries, found⟩ := Disk.isDirectory_iff.mp isDirectory
      obtain ⟨content, foundFile⟩ := Disk.isFile_iff.mp isFile
      cases found.symm.trans foundFile
  | nothing neither => exact absurd (Or.inl isDirectory) neither

theorem mem_contributions_iff
    {contributions : List (List SourceInput)}
    (directories : ∀ input ∈ inputs, IsDirectoryInput environment disk input)
    (contribute : List.Forall₂ (InputContributes environment disk) inputs contributions) :
    source ∈ contributions.flatten ↔ ∃ entry, Sees environment disk inputs source entry := by
  induction contribute with
  | nil =>
      refine iff_of_false List.not_mem_nil ?_
      rintro ⟨_, ⟨member, _⟩⟩
      cases member
  | cons first _ inductionHypothesis =>
      obtain ⟨⟨path, home, isDirectory⟩, rest⟩ := List.forall_mem_cons.mp directories
      obtain ⟨otherPath, otherHome, contributes⟩ := first
      obtain rfl := Option.some.inj (Eq.trans (Eq.symm otherHome) home)
      rw [List.flatten_cons, List.mem_append, contributes.mem_iff home isDirectory,
        inductionHypothesis rest, ← exists_or]
      exact exists_congr fun entry => sees_cons.symm

/-! ## Sources of directories -/

/-- The sources that are files. -/
def filesOf (disk : Disk) (sources : List SourceInput) : List SourceInput :=
  sources.filter fun source => disk.isFile source.file

/-- Every file that is seen from the inputs parses. -/
def AllParse (environment : Environment) (disk : Disk) (inputs : List String) : Prop :=
  ∀ source content, Sees environment disk inputs source (.file content) →
    (source.parse? environment.platform disk).isSome = true

/-- The sources of inputs are what is seen from them, each place once. -/
structure SeenOnce (environment : Environment) (disk : Disk) (inputs : List String)
    (sources : List SourceInput) : Prop where
  seen : ∀ source ∈ sources, ∃ entry, Sees environment disk inputs source entry
  complete : ∀ source entry, Sees environment disk inputs source entry →
    ∃ kept ∈ sources, kept.place disk = source.place disk
  distinct : (sources.map (SourceInput.place disk)).Nodup

theorem isUsable_of_isDirectoryInput (isDirectory : IsDirectoryInput environment disk input) :
    IsUsable environment disk input := by
  obtain ⟨path, home, stands⟩ := isDirectory
  obtain ⟨entries, found⟩ := Disk.isDirectory_iff.mp stands
  exact isUsable_of_find? home found

theorem seenOnce_of_expandInputs
    (distinct : disk.tree.DistinctlyNamed)
    (directories : ∀ input ∈ inputs, IsDirectoryInput environment disk input)
    {logger : Logger}
    (expanded : (expandInputs environment disk logger inputs).1 = .ok sources) :
    SeenOnce environment disk inputs sources := by
  obtain ⟨contributions, lists⟩ := listsOnce_of_expandInputs distinct expanded
  have isSeen (source : SourceInput) :
      source ∈ contributions.flatten ↔ ∃ entry, Sees environment disk inputs source entry :=
    mem_contributions_iff directories lists.contribute
  refine ⟨fun source member => ?_, fun source entry sees => ?_, lists.distinct⟩
  · rw [lists.firsts] at member
    exact (isSeen source).mp ((firsts_sublist _ _).subset member)
  · exact lists.complete source ((isSeen source).mpr ⟨entry, sees⟩)

theorem isRejected_of_isDirectoryInput
    (distinct : disk.tree.DistinctlyNamed)
    (isDirectory : IsDirectoryInput environment disk input) :
    ¬ isRejected environment disk input = true := by
  rw [isRejected_iff distinct (isUsable_of_isDirectoryInput isDirectory), not_not]
  obtain ⟨path, home, stands⟩ := isDirectory
  exact ⟨path, home, Or.inl stands⟩

namespace SeenOnce

variable (seenOnce : SeenOnce environment disk inputs sources)
include seenOnce

theorem filesOf_nodup : ((filesOf disk sources).map (SourceInput.place disk)).Nodup :=
  seenOnce.distinct.sublist (List.filter_sublist.map _)

variable (wellNamed : disk.tree.WellNamed)
include wellNamed

theorem sees_file (member : source ∈ sources) (isFile : disk.isFile source.file = true) :
    ∃ content, Sees environment disk inputs source (.file content) := by
  obtain ⟨entry, sees⟩ := seenOnce.seen source member
  obtain ⟨content, rfl⟩ := sees.exists_content wellNamed isFile
  exact ⟨content, sees⟩

/-- What is seen is seen as one of the sources. -/
theorem exists_kept (sees : Sees environment disk inputs source entry) :
    ∃ kept ∈ sources, kept.place disk = source.place disk ∧
      Sees environment disk inputs kept entry := by
  obtain ⟨kept, listed, samePlace⟩ := seenOnce.complete source entry sees
  obtain ⟨other, keptSees⟩ := seenOnce.seen kept listed
  -- only one entry stands at the place of both
  have stands := keptSees.stands wellNamed
  rw [samePlace, sees.stands wellNamed] at stands
  obtain rfl := Option.some.inj stands
  exact ⟨kept, listed, samePlace, keptSees⟩

variable (parse : AllParse environment disk inputs)
include parse

/-- The files among the sources are those that parse. -/
theorem parse?_isSome_iff (member : source ∈ sources) :
    (source.parse? environment.platform disk).isSome = true ↔ disk.isFile source.file = true := by
  refine ⟨isFile_of_parse?, fun isFile => ?_⟩
  obtain ⟨content, sees⟩ := seenOnce.sees_file wellNamed member isFile
  exact parse source content sees

theorem decided : ∀ source ∈ sources, source.Decided environment.platform disk := by
  intro source member
  by_cases isFile : disk.isFile source.file = true
  · obtain ⟨content, sees⟩ := seenOnce.sees_file wellNamed member isFile
    obtain ⟨file, parses⟩ := Option.isSome_iff_exists.mp (parse source content sees)
    exact decided_of_parse? parses
  · exact decided_of_not_isFile environment.platform isFile

theorem badSources_eq :
    badSources environment.platform disk sources =
      sources.countP fun source => !disk.isFile source.file := by
  apply List.countP_congr
  intro source member
  have isFile := seenOnce.parse?_isSome_iff wellNamed parse member
  rw [Bool.not_eq_true', ← Bool.not_eq_true, ← isFile]
  cases source.parse? environment.platform disk <;> simp

/-- The places of the files among the sources are those of the files that are seen. -/
theorem mem_places_iff :
    place ∈ (filesOf disk sources).map (SourceInput.place disk) ↔
      ∃ source content, Sees environment disk inputs source (.file content) ∧
        source.place disk = place := by
  rw [List.mem_map]
  constructor
  · rintro ⟨source, member, rfl⟩
    obtain ⟨listed, isFile⟩ := List.mem_filter.mp member
    obtain ⟨content, sees⟩ := seenOnce.sees_file wellNamed listed isFile
    exact ⟨source, content, sees, rfl⟩
  · rintro ⟨source, content, sees, rfl⟩
    obtain ⟨kept, listed, samePlace, keptSees⟩ := seenOnce.exists_kept wellNamed sees
    have isFile := isFile_of_parse? (parse kept content keptSees)
    exact ⟨kept, List.mem_filter.mpr ⟨listed, isFile⟩, samePlace⟩

theorem all_files_iff :
    (∀ source ∈ sources, disk.isFile source.file = true) ↔
      ∀ source entries, ¬ Sees environment disk inputs source (.directory entries) := by
  constructor
  · intro files source entries sees
    obtain ⟨kept, listed, _, keptSees⟩ := seenOnce.exists_kept wellNamed sees
    obtain ⟨content, isContent⟩ := keptSees.exists_content wellNamed (files kept listed)
    cases isContent
  · intro noDirectory source member
    obtain ⟨entry, sees⟩ := seenOnce.seen source member
    cases entry with
    | file content => exact isFile_of_parse? (parse source content sees)
    | directory entries => exact absurd sees (noDirectory source entries)

end SeenOnce

/-! ## Modules of files -/

/-- A tree is the module of a source. -/
def IsModuleOf (platform : Platform) (options : Options) (disk : Disk) (source : SourceInput)
    (tree : Tree) : Prop :=
  ∃ file ∈ source.parse? platform disk, tree = moduleTree platform options source.relative file

theorem forall₂_moduleTrees
    (platform : Platform) (options : Options)
    (files : ∀ source ∈ sources,
      (source.parse? platform disk).isSome = true ↔ disk.isFile source.file = true) :
    List.Forall₂ (IsModuleOf platform options disk) (filesOf disk sources)
      (moduleTrees platform options disk sources) := by
  induction sources with
  | nil => exact .nil
  | cons source sources inductionHypothesis =>
      obtain ⟨first, rest⟩ := List.forall_mem_cons.mp files
      have others := inductionHypothesis rest
      rw [filesOf, moduleTrees] at others ⊢
      cases parses : source.parse? platform disk with
      | none =>
          rw [parses] at first
          have noFile : ¬ disk.isFile source.file = true := fun isFile => by
            cases first.mpr isFile
          rw [List.filter_cons, if_neg noFile, List.filterMap_cons, parses]
          exact others
      | some file =>
          rw [parses] at first
          rw [List.filter_cons, if_pos (first.mp rfl), List.filterMap_cons, parses]
          exact .cons ⟨file, parses, rfl⟩ others

variable {Observed : Type} {converter : Converter Observed}

/-- What directories are converted to where all files that are seen from them parse. -/
structure ConvertsFiles (converter : Converter Observed) (inputs : List String)
    (sources : List SourceInput) : Prop where
  distinct : ((filesOf converter.disk sources).map (SourceInput.place converter.disk)).Nodup
  listed : ∀ place,
    place ∈ (filesOf converter.disk sources).map (SourceInput.place converter.disk) ↔
      ∃ source content,
        Sees converter.environment converter.disk inputs source (.file content) ∧
          source.place converter.disk = place
  regular : (∀ source ∈ sources, converter.disk.isFile source.file = true) ↔
    ∀ source entries,
      ¬ Sees converter.environment converter.disk inputs source (.directory entries)
  returns : (∃ key after, Returns (convert inputs) converter key after) ↔
    ReadmeUsable converter.options converter.disk ∧
      AllWritable converter.environment.platform converter.options converter.disk sources
  modules : ∀ key after, Returns (convert inputs) converter key after →
    List.Forall₂ (IsModuleOf converter.environment.platform converter.options converter.disk)
      (filesOf converter.disk sources) (after.model.project key).tree.children
  errors : ∀ key after, Returns (convert inputs) converter key after →
    after.logger.errors = converter.logger.errors +
      sources.countP fun source => !converter.disk.isFile source.file

/-- Directories with a file to be seen, all of which parse, are converted to one module for each
file, unless the readme is not text or a module cannot be written.  The errors are the directories
that are seen as sources. -/
theorem directories_convert
    (noListeners : NoListeners converter.hooks)
    (wellNamed : converter.disk.tree.WellNamed)
    (distinct : converter.disk.tree.DistinctlyNamed)
    (directories : ∀ input ∈ inputs,
      IsDirectoryInput converter.environment converter.disk input)
    (parse : AllParse converter.environment converter.disk inputs)
    (nonempty : ∃ source content,
      Sees converter.environment converter.disk inputs source (.file content)) :
    ∃ sources,
      (expandInputs converter.environment converter.disk converter.logger inputs).1 =
          .ok sources ∧
        ConvertsFiles converter inputs sources := by
  obtain ⟨sources, expanded⟩ := (exists_expandFrom_iff ⟨[], []⟩ converter.logger).mpr
    fun input member => isUsable_of_isDirectoryInput (directories input member)
  have seenOnce := seenOnce_of_expandInputs distinct directories expanded
  have decided := seenOnce.decided wellNamed parse
  have files (source : SourceInput) (member : source ∈ sources) :=
    seenOnce.parse?_isSome_iff wellNamed parse member
  have noBadInputs : badInputs converter.environment converter.disk inputs sources = 0 := by
    obtain ⟨source, content, sees⟩ := nonempty
    obtain ⟨kept, listed, _⟩ := seenOnce.complete source _ sees
    have accepted : inputs.countP (isRejected converter.environment converter.disk) = 0 :=
      List.countP_eq_zero.mpr fun input member =>
        isRejected_of_isDirectoryInput distinct (directories input member)
    rw [badInputs, accepted, if_neg (List.ne_nil_of_mem listed)]
  refine ⟨sources, expanded, seenOnce.filesOf_nodup,
    fun place => seenOnce.mem_places_iff wellNamed parse, seenOnce.all_files_iff wellNamed parse,
    ?_, fun key after returns => ?_, fun key after returns => ?_⟩
  · rw [exists_returns_iff noListeners expanded, and_iff_right decided]
  · rw [(tolerates_of_returns noListeners expanded returns).tree]
    exact forall₂_moduleTrees converter.environment.platform converter.options files
  · rw [(tolerates_of_returns noListeners expanded returns).errors, noBadInputs, Nat.add_zero,
      seenOnce.badSources_eq wellNamed parse]

/-! ## Clean and unclean trees -/

/-- What is seen is among what the directories of the inputs list. -/
theorem allParse_of_below
    (all : ∀ input ∈ inputs, ∀ path ∈ environment.expandHome? (Path.ofString input),
      ∀ found ∈ Disk.below [] ((disk.tree.get? (disk.resolve path)).getD (.file [])),
        isSourcePlace found.1 = true → found.2.isFile = true →
          ((SourceInput.below path found.1).parse? environment.platform disk).isSome = true) :
    AllParse environment disk inputs := by
  rintro source content ⟨member, home, names, stands⟩
  rename_i input path place
  rw [ApiDocs.Entry.get?_append, Option.bind_eq_some_iff] at stands
  obtain ⟨reached, here, further⟩ := stands
  have listed := (Disk.mem_below_of_get? further).1 names.ne_nil
  have checked := all input member path home (place, .file content)
  rw [here, Option.getD_some] at checked
  exact checked listed (isSourcePlace_iff.mpr names) rfl

/-- A converter without listeners over a tree. -/
def converterOver (tree : ApiDocs.Entry) : Converter Unit :=
  { converterOf [] with disk := { tree, workingDirectory := [] } }

/-- Two files to be seen; what does not parse is in a cache or hidden. -/
def cleanTree : ApiDocs.Entry :=
  .directory [("src", .directory
    [("sub", .directory [("n.py", .file (Text.encode "def g(): pass\n".toList))]),
      ("m.py", .file (Text.encode "def f(): pass\n".toList)),
      ("__pycache__", .directory [("c.py", .file [0xFF])]),
      (".old", .directory [("m.py", .file (Text.encode "def (\n".toList))])])]

theorem directories_convert_overlapping :
    let start := converterOver cleanTree
    ∃ key after, Returns (convert ["src/sub", "src"]) start key after ∧
      (after.model.project key).tree.children.length = 2 ∧
      after.logger.errors = 0 := by
  intro start
  let first : SourceInput := .below ⟨"", ["src", "sub"]⟩ ["n.py"]
  let second : SourceInput := .below ⟨"", ["src"]⟩ ["m.py"]
  have sees : Sees start.environment start.disk ["src/sub", "src"] second
      (.file (Text.encode "def f(): pass\n".toList)) :=
    .below (List.mem_cons_of_mem _ List.mem_cons_self) (by decide +kernel)
      (by decide +kernel) rfl
  have noListeners : NoListeners start.hooks := converterOf_noListeners []
  obtain ⟨sources, expanded, converts⟩ :=
    directories_convert noListeners (by decide +kernel) (by decide +kernel) (by decide +kernel)
      (allParse_of_below (by decide +kernel)) ⟨second, _, sees⟩
  have found : (expandInputs start.environment start.disk start.logger ["src/sub", "src"]).1 =
      .ok [first, second] := by
    cbv
  obtain rfl := Except.ok.inj (expanded.symm.trans found)
  obtain ⟨key, after, returns⟩ := converts.returns.mpr
    ⟨fun set => absurd rfl set, by decide +kernel⟩
  have modules := converts.modules key after returns
  refine ⟨key, after, returns, modules.length_eq.symm.trans (by decide +kernel), ?_⟩
  exact (converts.errors key after returns).trans (by decide +kernel)

/-- A source beside an empty directory whose name ends as that of a source. -/
def uncleanTree : ApiDocs.Entry :=
  .directory [("src", .directory
    [("m.py", .file (Text.encode "def f(): pass\n".toList)), ("x.py", .directory [])])]

/-- That all files to be seen parse does not make all sources files. -/
theorem not_directories_convert_cleanly :
    ¬ ∀ (converter : Converter Unit) (inputs : List String),
      NoListeners converter.hooks →
      converter.disk.tree.WellNamed →
      converter.disk.tree.DistinctlyNamed →
      (∀ input ∈ inputs, IsDirectoryInput converter.environment converter.disk input) →
      AllParse converter.environment converter.disk inputs →
      (∃ source content,
        Sees converter.environment converter.disk inputs source (.file content)) →
        ∃ sources key after,
          (expandInputs converter.environment converter.disk converter.logger inputs).1 =
              .ok sources ∧
            (∀ source ∈ sources, converter.disk.isFile source.file = true) ∧
            Returns (convert inputs) converter key after ∧
            after.logger.errors = converter.logger.errors ∧
            List.Forall₂
              (IsModuleOf converter.environment.platform converter.options converter.disk) sources
              (after.model.project key).tree.children := by
  intro convertsCleanly
  let start := converterOver uncleanTree
  let file : SourceInput := .below ⟨"", ["src"]⟩ ["m.py"]
  let directory : SourceInput := .below ⟨"", ["src"]⟩ ["x.py"]
  have sees : Sees start.environment start.disk ["src"] file
      (.file (Text.encode "def f(): pass\n".toList)) :=
    .below List.mem_cons_self (by decide +kernel) (by decide +kernel) rfl
  obtain ⟨sources, _, _, expanded, files, _⟩ :=
    convertsCleanly start ["src"] (converterOf_noListeners []) (by decide +kernel)
      (by decide +kernel) (by decide +kernel) (allParse_of_below (by decide +kernel))
      ⟨file, _, sees⟩
  have found : (expandInputs start.environment start.disk start.logger ["src"]).1 =
      .ok [file, directory] := by
    cbv
  obtain rfl := Except.ok.inj (expanded.symm.trans found)
  have isFile := files directory (List.mem_cons_of_mem _ List.mem_cons_self)
  revert isFile
  decide +kernel

end ApiDocs.Convert
