import ApiDocs.Proofs.Convert.OutlineShape
import ApiDocs.Proofs.Convert.Unattended

/-!
# Conversion file by file

Without listeners the modules of a project are read off one source after the other: what a source
adds depends on its text, on its path below its own root and on the options.  A source that cannot
be read or parsed adds an error and nothing else.
-/

namespace ApiDocs

/-- What holds of every declaration in a tree. -/
inductive Tree.Every (holds : Declaration → Prop) : Tree → Prop where
  | node {declaration : Declaration} {children : List Tree} :
      holds declaration →
      (∀ child ∈ children, child.Every holds) →
      Tree.Every holds (.node declaration children)

theorem Tree.Every.mono {holds follows : Declaration → Prop} {tree : Tree}
    (every : tree.Every holds)
    (implies : ∀ declaration, holds declaration → follows declaration) :
    tree.Every follows := by
  induction every with
  | node declared _ inductionHypothesis =>
      exact .node (implies _ declared) inductionHypothesis

/-- A text is parsed or rejected: it holds no null character, and reading it exhausts nothing. -/
def Platform.Decides (platform : Platform) (text : List Char) : Prop :=
  '\x00' ∉ text ∧ platform.readingExhausts? text = none

instance (platform : Platform) (text : List Char) : Decidable (platform.Decides text) :=
  inferInstanceAs (Decidable (_ ∧ _))

namespace Convert

open ApiDocs.Computation
open ApiDocs.Source (Expr FunctionDefinition Statement SourceFile)

/-! ## Places of declarations -/

/-- The source of a declaration is a line of the file in view. -/
def View.Places (view : View) (declaration : Declaration) : Prop :=
  ∃ line, declaration.source = view.place line

def Entry.PlacedBy (view : View) (entry : Entry) : Prop :=
  ∀ tree ∈ entry.trees, tree.Every view.Places

variable {view : View}

theorem failed_placedBy (failure : Failure) : (Entry.failed failure).PlacedBy view := by
  intro tree member
  rw [Entry.trees] at member
  cases member

theorem declared_placedBy
    {declaration : Declaration} (origin : Origin) {members : List Entry}
    (places : view.Places declaration)
    (membersPlaced : ∀ entry ∈ members, entry.PlacedBy view) :
    (Entry.declared declaration origin members).PlacedBy view := by
  intro tree member
  rw [Entry.trees, List.mem_singleton] at member
  subst member
  refine Tree.Every.node places fun child childMember => ?_
  rw [treesOf_eq_flatMap, List.mem_flatMap] at childMember
  obtain ⟨entry, entryMember, inside⟩ := childMember
  exact membersPlaced entry entryMember child inside

theorem entryOf_placedBy
    (origin : Origin) {declaration : Except Source.PrintFault Declaration} {members : List Entry}
    (places : ∀ result, declaration = .ok result → view.Places result)
    (membersPlaced : ∀ entry ∈ members, entry.PlacedBy view) :
    (entryOf origin declaration members).PlacedBy view := by
  cases declaration with
  | error fault => exact failed_placedBy _
  | ok result => exact declared_placedBy origin (places result rfl) membersPlaced

theorem functionEntries_placedBy
    {kind : Kind} {definition : FunctionDefinition} {entry : Entry}
    (member : entry ∈ functionEntries view kind definition) :
    entry.PlacedBy view := by
  rw [functionEntries] at member
  split at member
  · rw [List.mem_singleton.mp member]
    exact entryOf_placedBy _
      (fun declaration result => ⟨definition.line, (functionDeclaration_eq_ok result).2.1⟩)
      (List.forall_mem_nil _)
  · cases member

theorem variableEntries_placedBy
    {kind : Kind} {origin : Origin} {names : List String}
    {signature : Except Source.PrintFault (List Char)} {line : Nat} {entry : Entry}
    (member : entry ∈ variableEntries view kind origin names signature line) :
    entry.PlacedBy view := by
  cases signature with
  | error fault =>
      rw [variableEntries, List.mem_singleton] at member
      rw [member]
      exact failed_placedBy _
  | ok signature =>
      rw [variableEntries, List.mem_map] at member
      obtain ⟨name, _, rfl⟩ := member
      exact declared_placedBy origin ⟨line, rfl⟩ (List.forall_mem_nil _)

theorem typedEntries_placedBy
    {kind : Kind} {target type : Expr} {value : Option Expr} {line : Nat} {entry : Entry}
    (member : entry ∈ typedEntries view kind target type value line) :
    entry.PlacedBy view := by
  rw [typedEntries.eq_def] at member
  split at member
  · exact variableEntries_placedBy member
  · cases member

theorem memberEntries_placedBy
    {statement : Statement} {entry : Entry}
    (member : entry ∈ memberEntries view statement) :
    entry.PlacedBy view := by
  rw [memberEntries.eq_def] at member
  split at member
  · exact functionEntries_placedBy member
  · exact typedEntries_placedBy member
  · cases member

theorem classEntries_placedBy
    {name : String} {bases : List Expr} {comment : String} {body : List Statement} {line : Nat}
    {entry : Entry}
    (member : entry ∈ classEntries view name bases comment body line) :
    entry.PlacedBy view := by
  rw [classEntries_eq] at member
  split at member
  · rw [List.mem_singleton.mp member]
    refine entryOf_placedBy _
      (fun declaration result => ⟨line, (classDeclaration_eq_ok result).2.1⟩) ?_
    intro other otherMember
    obtain ⟨statement, _, inside⟩ := List.mem_flatMap.mp otherMember
    exact memberEntries_placedBy inside
  · cases member

theorem statementEntries_placedBy
    {statement : Statement} {entry : Entry}
    (member : entry ∈ statementEntries view statement) :
    entry.PlacedBy view := by
  rw [statementEntries.eq_def] at member
  split at member
  · exact classEntries_placedBy member
  · exact functionEntries_placedBy member
  · exact variableEntries_placedBy member
  · exact typedEntries_placedBy member
  · cases member

theorem moduleEntry_placedBy (view : View) (name : String) (file : SourceFile) :
    (moduleEntry view name file).PlacedBy view := by
  refine declared_placedBy _ ⟨1, rfl⟩ fun entry member => ?_
  obtain ⟨statement, _, inside⟩ := List.mem_flatMap.mp member
  exact statementEntries_placedBy inside

/-! ## Modules of sources -/

def SourceInput.relative (source : SourceInput) : Path := source.file.relativeTo source.root

/-- The syntax of a source, unless it cannot be read or parsed. -/
def SourceInput.parse? (platform : Platform) (disk : Disk) (source : SourceInput) :
    Option SourceFile :=
  match readText disk source.file with
  | .error _ => none
  | .ok text =>
    if platform.Decides text then (SourceFile.read platform.names text).toOption else none

/-- How declarations of a file are seen under options. -/
def viewOf (platform : Platform) (options : Options) (relative : Path) : View :=
  { file := relative.text
    excludesPrivate := options.switchOf .excludePrivate
    hidesSources := options.switchOf .disableSources
    platform }

/-- The module of a file at a path. -/
def moduleOf (platform : Platform) (options : Options) (relative : Path) (file : SourceFile) :
    Entry :=
  moduleEntry (viewOf platform options relative) (moduleName relative) file

/-- The tree of that module. -/
def moduleTree (platform : Platform) (options : Options) (relative : Path) (file : SourceFile) :
    Tree :=
  .node
    { name := moduleName relative, kind := .moduleFile, comment := file.comment, signature := "",
      source := (viewOf platform options relative).place 1, flags := [] }
    (treesOf (file.body.flatMap (statementEntries (viewOf platform options relative))))

/-- A module with all it encloses can be written. -/
def IsWritable (platform : Platform) (options : Options) (relative : Path) (file : SourceFile) :
    Prop :=
  (moduleOf platform options relative file).failure? = none

instance (platform : Platform) (options : Options) (relative : Path) (file : SourceFile) :
    Decidable (IsWritable platform options relative file) :=
  inferInstanceAs (Decidable (_ = none))

theorem trees_moduleOf
    (platform : Platform) (options : Options) (relative : Path) (file : SourceFile) :
    (moduleOf platform options relative file).trees =
      [moduleTree platform options relative file] := by
  rw [moduleOf, moduleEntry, Entry.trees, moduleTree]

/-- The tree of a module names its own file throughout. -/
theorem moduleTree_places
    (platform : Platform) (options : Options) (relative : Path) (file : SourceFile) :
    (moduleTree platform options relative file).Every
      (viewOf platform options relative).Places := by
  apply moduleEntry_placedBy (viewOf platform options relative) (moduleName relative) file
  rw [← moduleOf, trees_moduleOf]
  exact List.mem_cons_self

/-- The text of a source, where it has one, is parsed or rejected. -/
def SourceInput.Decided (platform : Platform) (disk : Disk) (source : SourceInput) : Prop :=
  ∀ text, readText disk source.file = .ok text → platform.Decides text

variable {platform : Platform} {options : Options} {disk : Disk} {source : SourceInput}
  {sources : List SourceInput}

instance : Decidable (source.Decided platform disk) :=
  match reading : readText disk source.file with
  | .error _ => isTrue fun text found => by rw [reading] at found; cases found
  | .ok text =>
    decidable_of_iff (platform.Decides text)
      ⟨fun decides other found => by rw [reading] at found; cases found; exact decides,
        fun decided => decided text reading⟩

theorem readSource_of_decides {text : List Char} (decides : platform.Decides text)
    (relative : Path) :
    readSource platform options relative text =
      match SourceFile.read platform.names text with
      | .error line => .rejected s!"{relative.text}:{line}: invalid syntax"
      | .ok file => .parsed (moduleOf platform options relative file) := by
  rw [readSource, if_neg (by rw [List.contains_iff_mem]; exact decides.1), decides.2]
  rfl

/-- A text that is neither parsed nor rejected ends the conversion. -/
theorem readSource_of_not_decides (options : Options) {text : List Char}
    (undecided : ¬ platform.Decides text) (relative : Path) :
    ∃ failure, readSource platform options relative text = .failed failure := by
  rw [readSource]
  split
  · exact ⟨_, rfl⟩
  · rename_i absent
    rw [List.contains_iff_mem] at absent
    cases exhausts : platform.readingExhausts? text with
    | some exhaustion => exact ⟨_, rfl⟩
    | none => exact absurd ⟨absent, exhausts⟩ undecided

/-- Only what is decided parses. -/
theorem decided_of_parse? {file : SourceFile} (parses : source.parse? platform disk = some file) :
    source.Decided platform disk := by
  intro text reads
  rw [SourceInput.parse?, reads] at parses
  by_contra undecided
  simp only [if_neg undecided] at parses
  cases parses

theorem readInput_of_parse?_eq_some
    {file : SourceFile}
    (parses : source.parse? platform disk = some file) :
    readInput platform options disk source =
      .parsed (moduleOf platform options source.relative file) := by
  have decided := decided_of_parse? parses
  rw [SourceInput.parse?] at parses
  rw [readInput]
  cases reading : readText disk source.file with
  | error failure =>
      rw [reading] at parses
      cases parses
  | ok text =>
      have decides := decided text reading
      simp only [reading, if_pos decides] at parses
      simp only
      rw [readSource_of_decides decides]
      cases syntaxOf : SourceFile.read platform.names text with
      | error line =>
          simp only [syntaxOf] at parses
          cases parses
      | ok found =>
          simp only [syntaxOf] at parses
          cases parses
          rfl

theorem readInput_of_parse?_eq_none
    (decided : source.Decided platform disk)
    (rejected : source.parse? platform disk = none) :
    ∃ message, readInput platform options disk source = .rejected message := by
  rw [SourceInput.parse?] at rejected
  rw [readInput]
  cases reading : readText disk source.file with
  | error failure => exact ⟨_, rfl⟩
  | ok text =>
      have decides := decided text reading
      simp only [reading, if_pos decides] at rejected
      simp only
      rw [readSource_of_decides decides]
      cases syntaxOf : SourceFile.read platform.names text with
      | error line => exact ⟨_, rfl⟩
      | ok found =>
          simp only [syntaxOf] at rejected
          cases rejected

theorem readInput_of_not_decided (undecided : ¬ source.Decided platform disk) :
    ∃ failure, readInput platform options disk source = .failed failure := by
  rw [SourceInput.Decided] at undecided
  push Not at undecided
  obtain ⟨text, reads, undecided⟩ := undecided
  obtain ⟨failure, fails⟩ := readSource_of_not_decides options undecided source.relative
  rw [readInput, reads]
  exact ⟨failure, fails⟩

theorem failure?_readInput (decided : source.Decided platform disk) :
    (readInput platform options disk source).failure? = none ↔
      ∀ file ∈ source.parse? platform disk, IsWritable platform options source.relative file := by
  cases parse : source.parse? platform disk with
  | none =>
      obtain ⟨message, reading⟩ := readInput_of_parse?_eq_none decided parse
      rw [reading, Reading.failure?]
      simp
  | some file =>
      rw [readInput_of_parse?_eq_some parse, Reading.failure?]
      simp [IsWritable]

theorem decided_of_failure?
    (sound : (readInput platform options disk source).failure? = none) :
    source.Decided platform disk := by
  by_contra undecided
  obtain ⟨failure, fails⟩ := readInput_of_not_decided undecided
  rw [fails] at sound
  cases sound

theorem trees_outline :
    treesOf (outline platform options disk source) =
      ((source.parse? platform disk).map
        (moduleTree platform options source.relative)).toList := by
  rw [outline]
  cases parse : source.parse? platform disk with
  | none =>
      by_cases decided : source.Decided platform disk
      · obtain ⟨message, rejected⟩ := readInput_of_parse?_eq_none decided parse
        rw [rejected]
        rfl
      · obtain ⟨failure, fails⟩ := readInput_of_not_decided decided
        rw [fails]
        rfl
  | some file =>
      rw [readInput_of_parse?_eq_some parse]
      simp only
      rw [treesOf, treesOf, List.append_nil, trees_moduleOf]
      rfl

/-- The trees of the files that parse, in the order of the sources. -/
def moduleTrees (platform : Platform) (options : Options) (disk : Disk)
    (sources : List SourceInput) : List Tree :=
  sources.filterMap fun source =>
    (source.parse? platform disk).map (moduleTree platform options source.relative)

theorem trees_outlines (sources : List SourceInput) :
    treesOf (sources.flatMap (outline platform options disk)) =
      moduleTrees platform options disk sources := by
  induction sources with
  | nil =>
      rw [List.flatMap_nil, treesOf]
      rfl
  | cons source sources inductionHypothesis =>
      rw [treesOf_eq_flatMap] at inductionHypothesis
      rw [List.flatMap_cons, treesOf_eq_flatMap, List.flatMap_append, inductionHypothesis,
        ← treesOf_eq_flatMap, trees_outline, moduleTrees, moduleTrees, List.filterMap_cons]
      cases (source.parse? platform disk).map (moduleTree platform options source.relative) <;> rfl

/-! ## Messages -/

/-- Sources that cannot be read or parsed. -/
def badSources (platform : Platform) (disk : Disk) (sources : List SourceInput) : Nat :=
  sources.countP fun source => (source.parse? platform disk).isNone

/-- Inputs that are neither sources nor directories, and the lack of any source. -/
def badInputs (environment : Environment) (disk : Disk) (inputs : List String)
    (sources : List SourceInput) : Nat :=
  inputs.countP (isRejected environment disk) + if sources = [] then 1 else 0

theorem countP_errors {messages : List (Level × String)}
    (errors : ∀ message ∈ messages, message.1 = .error) (level : Level) :
    (messages.countP fun message => message.1 = level) =
      if level = .error then messages.length else 0 := by
  split
  · rename_i isError
    rw [List.countP_eq_length]
    intro message member
    rw [isError]
    exact decide_eq_true (errors message member)
  · rename_i other
    rw [List.countP_eq_zero]
    intro message member
    rw [errors message member, decide_eq_true_eq]
    exact Ne.symm other

theorem sourceMessages_errors :
    ∀ message ∈ sourceMessages platform options disk sources, message.1 = .error := by
  intro message member
  obtain ⟨source, _, inside⟩ := List.mem_flatMap.mp member
  cases reading : readInput platform options disk source with
  | rejected text =>
      rw [reading, Reading.messages] at inside
      rw [List.mem_singleton.mp inside]
  | parsed entry =>
      rw [reading] at inside
      cases inside
  | failed failure =>
      rw [reading] at inside
      cases inside

theorem length_sourceMessages (decided : ∀ source ∈ sources, source.Decided platform disk) :
    (sourceMessages platform options disk sources).length = badSources platform disk sources := by
  induction sources with
  | nil => rfl
  | cons source sources inductionHypothesis =>
      obtain ⟨first, rest⟩ := List.forall_mem_cons.mp decided
      have restLength := inductionHypothesis rest
      rw [sourceMessages] at restLength
      rw [badSources] at restLength ⊢
      rw [sourceMessages, List.flatMap_cons, List.length_append, restLength, List.countP_cons,
        Nat.add_comm]
      congr 1
      cases parse : source.parse? platform disk with
      | none =>
          obtain ⟨message, reading⟩ := readInput_of_parse?_eq_none first parse
          rw [reading]
          rfl
      | some file =>
          rw [readInput_of_parse?_eq_some parse]
          rfl

theorem countP_conversionMessages
    {Observed : Type} {converter : Converter Observed} {inputs : List String}
    (decided : ∀ source ∈ sources, source.Decided converter.environment.platform converter.disk)
    (notes : List (Level × String)) (level : Level) :
    ((conversionMessages converter inputs sources notes).countP fun message =>
        message.1 = level) =
      (notes.countP fun message => message.1 = level) +
        if level = .error then
          badInputs converter.environment converter.disk inputs sources +
            badSources converter.environment.platform converter.disk sources
        else 0 := by
  have inputErrors : ∀ message ∈
      inputMessages converter.environment converter.disk inputs, message.1 = .error := by
    intro message member
    obtain ⟨input, _, rfl⟩ := List.mem_map.mp member
    rfl
  have emptyErrors : ∀ message ∈ emptyMessages sources, message.1 = .error := by
    intro message member
    rw [emptyMessages] at member
    split at member
    · rw [List.mem_singleton.mp member]
    · cases member
  have emptyLength : (emptyMessages sources).length = if sources = [] then 1 else 0 := by
    cases sources <;> rfl
  rw [conversionMessages, List.countP_append, List.countP_append, List.countP_append,
    countP_errors inputErrors, countP_errors emptyErrors, countP_errors sourceMessages_errors,
    emptyLength, length_sourceMessages decided, inputMessages, List.length_map,
    ← List.countP_eq_length_filter, badInputs]
  split <;> omega

/-! ## Conversions -/

section Conversions

variable {Observed : Type} {converter : Converter Observed}

/-- Every file that parses can be written. -/
def AllWritable (platform : Platform) (options : Options) (disk : Disk)
    (sources : List SourceInput) : Prop :=
  ∀ source ∈ sources, ∀ file ∈ source.parse? platform disk,
    IsWritable platform options source.relative file

instance (platform : Platform) (options : Options) (disk : Disk) (sources : List SourceInput) :
    Decidable (AllWritable platform options disk sources) :=
  inferInstanceAs (Decidable (∀ source ∈ sources, _))

theorem failure?_eq_none_iff :
    (∀ source ∈ sources, (readInput platform options disk source).failure? = none) ↔
      (∀ source ∈ sources, source.Decided platform disk) ∧
        AllWritable platform options disk sources := by
  constructor
  · intro sound
    have decided : ∀ source ∈ sources, source.Decided platform disk := fun source member =>
      decided_of_failure? (sound source member)
    exact ⟨decided, fun source member =>
      (failure?_readInput (decided source member)).mp (sound source member)⟩
  · rintro ⟨decided, writable⟩ source member
    exact (failure?_readInput (decided source member)).mpr (writable source member)

/-- A conversion that nothing ends does not hinder a later one of the same inputs. -/
theorem Proceeds.again
    {inputs : List String} {readme : String} {notes : List (Level × String)}
    (proceeds : Proceeds converter inputs sources readme notes) :
    Proceeds (converted converter inputs sources readme notes) inputs sources readme notes where
  readme := proceeds.readme
  inputs := (expandFrom_fst converter.environment converter.disk _ _ converter.logger inputs).trans
    proceeds.inputs
  sources := proceeds.sources

theorem errors_converted
    (decided : ∀ source ∈ sources, source.Decided converter.environment.platform converter.disk)
    (inputs : List String) (readme : String) (notes : List (Level × String)) :
    (converted converter inputs sources readme notes).logger.errors =
      converter.logger.errors + ((notes.countP fun message => message.1 = .error) +
        (badInputs converter.environment converter.disk inputs sources +
          badSources converter.environment.platform converter.disk sources)) := by
  rw [converted, Logger.errors_logAll, countP_conversionMessages decided, if_pos rfl]

/-- A conversion works file by file: where every source is parsed or rejected, it returns unless a
file that parses cannot be written.  The project then encloses one module for each file that parses,
read off its syntax, its relative path and the options alone; all sources in it name that file; and
the errors are the sources, inputs and the lack of sources that have been reported.  The converter
is left as it was, so that another conversion gives the same project. -/
theorem conversion_is_filewise
    (noListeners : NoListeners converter.hooks)
    {inputs : List String} {readme : String}
    (readable : readmeOf converter.options converter.disk = .ok (readme, []))
    (expanded : (expandInputs converter.environment converter.disk converter.logger inputs).1 =
      .ok sources)
    (decided : ∀ source ∈ sources, source.Decided converter.environment.platform converter.disk) :
    let trees := moduleTrees converter.environment.platform converter.options converter.disk sources
    ((∃ key after, Returns (convert inputs) converter key after) ↔
        AllWritable converter.environment.platform converter.options converter.disk sources) ∧
      (∀ source ∈ sources, ∀ file ∈ source.parse? converter.environment.platform converter.disk,
        (moduleTree converter.environment.platform converter.options source.relative file).Every
          fun declaration =>
            ∀ place, declaration.source = some place → place.file = source.relative.text) ∧
      ∀ key after, Returns (convert inputs) converter key after →
        after.model.project key =
            { readme, tree := .node (projectDeclaration converter.options) trees } ∧
          after.logger.errors = converter.logger.errors +
            (badSources converter.environment.platform converter.disk sources +
              badInputs converter.environment converter.disk inputs sources) ∧
          after = { converter with logger := after.logger, model := after.model } ∧
          ∃ nextKey next, Returns (convert inputs) after nextKey next ∧
            next.model.project nextKey = after.model.project key := by
  intro trees
  refine ⟨⟨?_, ?_⟩, ?_, ?_⟩
  · rintro ⟨key, after, returns⟩
    obtain ⟨others, _, _, proceeds, _, _⟩ := (convert_returns_iff noListeners).mp returns
    obtain rfl : sources = others := Except.ok.inj (expanded.symm.trans proceeds.inputs)
    exact (failure?_eq_none_iff.mp proceeds.sources).2
  · intro writable
    have sound := failure?_eq_none_iff.mpr ⟨decided, writable⟩
    exact ⟨_, _, convert_run noListeners ⟨readable, expanded, sound⟩⟩
  · intro source member file parses
    have placed := moduleTree_places converter.environment.platform converter.options
      source.relative file
    refine placed.mono fun declaration places => ?_
    obtain ⟨line, isPlace⟩ := places
    intro place found
    rw [found, View.place] at isPlace
    split at isPlace
    · cases isPlace
    · cases isPlace
      rfl
  · intro key after returns
    obtain ⟨others, text, notes, proceeds, rfl, rfl⟩ := (convert_returns_iff noListeners).mp returns
    have sameSources : sources = others := Except.ok.inj (expanded.symm.trans proceeds.inputs)
    obtain ⟨sameReadme, noNotes⟩ := Prod.mk.inj
      (Except.ok.inj (readable.symm.trans proceeds.readme))
    subst sameSources sameReadme noNotes
    have project := converted_project converter inputs sources readme []
    rw [trees_outlines sources] at project
    -- another conversion differs in the key of its project and in what was logged before it
    have next := convert_run (by exact noListeners) proceeds.again
    have nextProject := converted_project (converted converter inputs sources readme []) inputs
      sources readme []
    refine ⟨project, ?_, rfl, _, _, next, nextProject.trans ?_⟩
    · rw [errors_converted decided, List.countP_nil, Nat.zero_add, Nat.add_comm (badInputs ..)]
    · rw [project, ← trees_outlines sources]
      rfl

end Conversions

/-! ## Good and bad files -/

/-- A converter without listeners over files in the root directory. -/
def converterOf (files : List (String × List UInt8)) : Converter Unit :=
  { logger := .new .silent .none
    options := .initial
    environment := .bare
    disk :=
      { tree := .directory (files.map fun file => (file.1, .file file.2)), workingDirectory := [] }
    hooks := .empty
    model := .empty
    observed := () }

theorem converterOf_noListeners (files : List (String × List UInt8)) :
    NoListeners (converterOf files).hooks := fun _ => rfl

/-- Two modules, a file that does not parse, one that is not text, and one that is no source. -/
def mixedFiles : List (String × List UInt8) :=
  [("first.py", Text.encode "def f(): pass\n".toList), ("broken.py", Text.encode "def (\n".toList),
    ("binary.py", [0xFF]), ("second.py", Text.encode "def g(): pass\n".toList), ("notes", [])]

theorem conversion_is_filewise_mixed :
    ∃ key after, Returns (convert (mixedFiles.map Prod.fst)) (converterOf mixedFiles) key after ∧
      ((after.model.project key).tree.children.map fun child => child.declaration.name) =
        ["first", "second"] ∧
      after.logger.errors = 3 := by
  let source (name : String) : SourceInput := ⟨⟨"", []⟩, ⟨"", [name]⟩⟩
  let sources := [source "first.py", source "broken.py", source "binary.py", source "second.py"]
  have expanded : (expandInputs (converterOf mixedFiles).environment (converterOf mixedFiles).disk
      (converterOf mixedFiles).logger (mixedFiles.map Prod.fst)).1 = .ok sources :=
    eq_ok_of_toOption (by decide +kernel)
  have filewise := conversion_is_filewise (converterOf_noListeners mixedFiles) rfl expanded
    (by decide +kernel)
  obtain ⟨returns, _, results⟩ := filewise
  obtain ⟨key, after, converted⟩ := returns.mpr (by decide +kernel)
  obtain ⟨project, errors, _⟩ := results key after converted
  refine ⟨key, after, converted, ?_, errors.trans (by decide +kernel)⟩
  rw [project]
  decide +kernel

/-- A source that parses, with a decorator that cannot be written: between its inner quotes stands
a tab, which is written with a backslash there. -/
def unwritableText : String := "@f\"\x7bb'\t'\x7d\"\ndef g(): pass\n"

/-- That all files can be read and parse does not suffice for a conversion to return. -/
theorem not_conversion_of_parsed_files_returns :
    ¬ ∀ (converter : Converter Unit) (inputs : List String) (sources : List SourceInput),
      NoListeners converter.hooks →
      readmeOf converter.options converter.disk = .ok ("", []) →
      (expandInputs converter.environment converter.disk converter.logger inputs).1 =
        .ok sources →
      (∀ source ∈ sources, (source.parse? converter.environment.platform converter.disk).isSome) →
        ∃ key after, Returns (convert inputs) converter key after := by
  intro returnsAlways
  let start := converterOf [("m.py", Text.encode unwritableText.toList)]
  let source : SourceInput := ⟨⟨"", []⟩, ⟨"", ["m.py"]⟩⟩
  have noListeners : NoListeners start.hooks := converterOf_noListeners _
  have expanded : (expandInputs start.environment start.disk start.logger ["m.py"]).1 =
      .ok [source] := eq_ok_of_toOption (by decide +kernel)
  have reads : readText start.disk source.file = .ok unwritableText.toList :=
    eq_ok_of_toOption (by decide +kernel)
  let syntax? := (SourceFile.read start.environment.platform.names unwritableText.toList).toOption
  have parses : source.parse? start.environment.platform start.disk = syntax? := by
    rw [SourceInput.parse?, reads]
    exact if_pos (by decide +kernel)
  have unwritable : ∃ file ∈ syntax?,
      ¬ IsWritable start.environment.platform start.options source.relative file := by
    decide +kernel
  obtain ⟨file, isFile, notWritable⟩ := unwritable
  have allParse : ∀ other ∈ [source],
      (other.parse? start.environment.platform start.disk).isSome := by
    rw [List.forall_mem_singleton, parses, isFile]
    rfl
  obtain ⟨key, after, returns⟩ :=
    returnsAlways start ["m.py"] [source] noListeners rfl expanded allParse
  obtain ⟨others, readme, notes, proceeds, _, _⟩ := (convert_returns_iff noListeners).mp returns
  obtain rfl := Except.ok.inj (expanded.symm.trans proceeds.inputs)
  have writable := (failure?_eq_none_iff.mp proceeds.sources).2
  exact notWritable (writable source List.mem_cons_self file (parses.trans isFile))

end Convert

end ApiDocs
