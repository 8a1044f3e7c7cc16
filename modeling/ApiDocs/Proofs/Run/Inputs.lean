import ApiDocs.Proofs.Convert.Anchoring
import ApiDocs.Proofs.Files.Listing
import ApiDocs.Proofs.Run.Preparation
import Mathlib

/-!
# The inputs of a run

Inputs are given to a run, or they stand in the configuration file of its working directory, which
writes them out from there.  Both find the same sources, unless an input is meant from a home
directory: written out, it is not any more.
-/

namespace ApiDocs

namespace ConfigFile

variable {environment : Environment} {disk : Disk}

/-! ## The file of the working directory -/

theorem stands_of_find? {path : Path} (names : ∀ name ∈ disk.workingDirectory, IsName name)
    (found : find? disk "" = some path) :
    disk.Stands ∧ path = (Disk.pathOf disk.workingDirectory).child standardName := by
  have here : disk.resolve (Path.ofString "") = disk.workingDirectory := rfl
  rw [find?, here] at found
  split at found
  · rename_i isFile
    refine ⟨?_, (Option.some.inj found).symm⟩
    obtain ⟨content, isThere⟩ := Disk.isFile_iff.mp isFile
    obtain ⟨leads, _⟩ := Disk.find?_eq_some_iff.mp isThere
    rw [Disk.locate, if_pos (by rfl), Path.child, Disk.pathOf, Disk.walk_append] at leads
    obtain ⟨reached, first, last⟩ := exists_of_bind_ok leads
    have named : ∀ name ∈ disk.workingDirectory, name ≠ ".." := fun name member =>
      (names name member).ne_dots
    have isHere := Disk.walk_eq_ok first
    rw [Disk.foldl_step_of_ne named, List.nil_append] at isHere
    subst isHere
    refine ⟨names, first, ?_⟩
    rw [Disk.walk] at last
    split at last
    · cases last
    · cases last
    · rename_i entries isDirectory
      exact ⟨entries, isDirectory⟩
  · cases found

/-- What stands under a name in a file is what the value there means. -/
theorem valueOf?_of_meant {directory : Path} {pairs values : List (Value × Value)}
    (together : pairs.mapM (meant environment directory) = .ok values) {name : String}
    {value : Value} (stands : valueOf? pairs name = some value) :
    ∃ changed, meaning environment directory (.text name) value = .ok changed ∧
      valueOf? values name = some changed := by
  have each := forall₂_of_mapM together
  clear together
  induction each with
  | nil => cases stands
  | @cons pair _ pairs values first _ inductionHypothesis =>
      obtain ⟨key, here⟩ := pair
      obtain ⟨changed, isMeant, same⟩ := exists_of_bind_ok first
      cases same
      rw [valueOf?_cons] at stands ⊢
      split at stands
      · rename_i isName
        obtain rfl := Yaml.isSameKey_text.mp isName
        cases stands
        exact ⟨changed, isMeant, if_pos isName⟩
      · rename_i other
        rw [if_neg other]
        exact inductionHypothesis stands

/-- A text that is one reference to an environment variable. -/
def isReference (text : String) : Bool := text.startsWith "$\x7b" && text.endsWith "\x7d"

/-- Inputs in a file are written out from the directory of the file. -/
theorem meaning_inputs (environment : Environment) (disk : Disk) {inputs : List String}
    (noReference : ∀ input ∈ inputs, isReference input = false) :
    meaning environment (Disk.pathOf disk.workingDirectory) (.text OptionName.inputFiles.word)
        (.list (inputs.map Value.text)) =
      .ok (.list ((inputs.map (Convert.writtenOut disk)).map Value.text)) := by
  have resolves : (inputs.map Value.text).map environment.resolve = inputs.map Value.text := by
    rw [List.map_map]
    refine List.map_congr_left fun input member => ?_
    have isText := noReference input member
    rw [isReference] at isText
    rw [Function.comp_apply, Environment.resolve]
    simp [isText]
  have names : (inputs.map Value.text).mapM (fileName (Disk.pathOf disk.workingDirectory)) =
      .ok ((inputs.map (Convert.writtenOut disk)).map Value.text) := by
    clear resolves noReference
    induction inputs with
    | nil => rfl
    | cons input inputs inductionHypothesis =>
        rw [List.map_cons, List.mapM_cons, inductionHypothesis]
        rfl
  rw [meaning_text, if_pos rfl, itemsOf, resolves, names]
  rfl

/-- The configuration file of the working directory can be loaded, and names inputs. -/
def NamesInputs (environment : Environment) (disk : Disk) (inputs : List String) : Prop :=
  ∃ path bytes pairs values, find? disk "" = some path ∧ disk.read path = .ok bytes ∧
    environment.platform.documents.read bytes = .ok (some (.mapping pairs)) ∧
    valueOf? pairs OptionName.inputFiles.word = some (.list (inputs.map Value.text)) ∧
    load environment disk path = .ok values

theorem load_of_namesInputs {inputs : List String}
    (names : ∀ name ∈ disk.workingDirectory, IsName name)
    (namesInputs : NamesInputs environment disk inputs)
    (noReference : ∀ input ∈ inputs, isReference input = false) :
    disk.Stands ∧ ∃ path values, find? disk "" = some path ∧
      load environment disk path = .ok values ∧
      valueOf? values OptionName.inputFiles.word =
        some (.list ((inputs.map (Convert.writtenOut disk)).map Value.text)) := by
  obtain ⟨path, bytes, pairs, values, found, reads, parses, listed, loads⟩ := namesInputs
  obtain ⟨stands, rfl⟩ := stands_of_find? names found
  refine ⟨stands, _, values, found, loads, ?_⟩
  have absolute : ((Disk.pathOf disk.workingDirectory).child standardName).isAbsolute = true := by
    rfl
  have expands := environment.expandHome?_of_absolute absolute
  have named : '\x00' ∉ ((Disk.pathOf disk.workingDirectory).child standardName).text.toList := by
    intro nullNamed
    rw [load_of_null expands nullNamed] at loads
    cases loads
  have holds : Holds environment disk _ _ bytes := ⟨expands, named, reads⟩
  rw [load_of_holds holds, readPairs, parses] at loads
  have parent : ((Disk.pathOf disk.workingDirectory).child standardName).parent =
      Disk.pathOf disk.workingDirectory := by
    rw [Path.parent, Path.child, Disk.pathOf, List.dropLast_concat]
  rw [parent] at loads
  obtain ⟨changed, isMeant, stands⟩ := valueOf?_of_meant loads listed
  rw [meaning_inputs environment disk noReference] at isMeant
  cases isMeant
  exact stands

end ConfigFile

namespace Application

open ApiDocs.Convert ApiDocs.ConfigFile ApiDocs.Computation

variable {Observed : Type}

/-! ## What a preparation leaves -/

theorem accept_inputs (room : Nat) (inputs : List String) :
    OptionName.inputFiles.accept room (.list (inputs.map Value.text)) = .ok (.texts inputs) := by
  simp only [OptionName.accept, OptionName.default, plainTexts_text]

/-- Nothing is exhausted with texts for the inputs. -/
theorem entryExhausts?_inputs (room : Nat) (inputs : List String) :
    entryExhausts? room (.text OptionName.inputFiles.word, .list (inputs.map Value.text)) =
      none := by
  have sets : entrySetting room (.text OptionName.inputFiles.word, .list (inputs.map Value.text)) =
      .ok (.inputFiles, .texts inputs) := by
    rw [entrySetting_word, accept_inputs]
    rfl
  exact entryExhausts?_of_sets sets

/-- After a preparation the inputs are those of the uppermost entry for them. -/
theorem bootstrap_inputs (application : Application Observed) (given : List (Value × Value))
    {config : Option String} {layer : List (Value × Value) × List String}
    (layered : layerOf application.environment application.disk
      (configPath? application.disk config) = .ok layer)
    (told : (mergeValues layer.1 given).findSome? (entryExhausts? application.room) = none)
    (isMapping : IsMapping given) {inputs : List String}
    (uppermost : (valueOf? given OptionName.inputFiles.word).or
        (valueOf? layer.1 OptionName.inputFiles.word) = some (.list (inputs.map Value.text))) :
    let booted := ((bootstrap given config).run application).2
    booted.options.textsOf .inputFiles = inputs ∧ booted.disk = application.disk := by
  intro booted
  have boots : (bootstrap given config).run application = _ :=
    bootstrap_of_layer given layered told
  have byEntry := applySettings_option application.room
    (mergeValues_isMapping (layerOf_isMapping layered) given) application.options .inputFiles
  rw [valueOf?_mergeValues isMapping, uppermost, OptionName.accepted?, Option.bind_some,
    accept_inputs] at byEntry
  let settled := applySettings application.room application.options (mergeValues layer.1 given)
  have equips : Ends Equips loadPlugins (prepared application settled.1 (layer.2 ++ settled.2)) :=
    loadPlugins_equips
  obtain ⟨settings, prepares⟩ := equips
  have sameOptions : booted.options = settled.1 :=
    (congrArg (·.2.options) boots).trans settings
  refine ⟨?_, (congrArg (·.2.disk) boots).trans prepares.disk⟩
  rw [Options.textsOf, sameOptions, byEntry.1]

/-- A preparation takes the inputs of the configuration file, written out. -/
theorem layerOf_of_namesInputs {environment : Environment} {disk : Disk} {inputs : List String}
    (names : ∀ name ∈ disk.workingDirectory, IsName name)
    (namesInputs : NamesInputs environment disk inputs)
    (noReference : ∀ input ∈ inputs, isReference input = false) :
    disk.Stands ∧ ∃ values, layerOf environment disk (configPath? disk none) = .ok (values, []) ∧
      valueOf? values OptionName.inputFiles.word =
        some (.list ((inputs.map (writtenOut disk)).map Value.text)) := by
  obtain ⟨stands, path, values, found, loads, listed⟩ :=
    load_of_namesInputs names namesInputs noReference
  refine ⟨stands, values, ?_, listed⟩
  rw [configPath?, found, layerOf, loads]

/-! ## Two ways to name inputs -/

section Ways

variable {application application' : Application Observed} {inputs : List String}
variable {given given' : List (Value × Value)} {config' : Option String}
variable {settled settled' : Options × List String}

/-- Where both preparations make their settings, inputs in the configuration file are written out
from the working directory, and no home directory is put into them; given inputs are as they are
given.  Both are the same files, of the same names, if no input is meant from a home directory. -/
theorem configured_inputs_expand_as_given
    (names : ∀ name ∈ application.disk.workingDirectory, IsName name)
    (namesInputs : NamesInputs application.environment application.disk inputs)
    (noReference : ∀ input ∈ inputs, isReference input = false)
    (isMapping : IsMapping given) (notGiven : valueOf? given OptionName.inputFiles.word = none)
    (settles : application.settledOf given none = .ok settled)
    (sameOutline : application'.disk.outline = application.disk.outline)
    (isMapping' : IsMapping given')
    (isGiven : valueOf? given' OptionName.inputFiles.word = some (.list (inputs.map Value.text)))
    (settles' : application'.settledOf given' config' = .ok settled') :
    let booted := ((bootstrap given none).run application).2
    let booted' := ((bootstrap given' config').run application').2
    let expand (booted : Application Observed) (environment : Environment) :=
      expandInputs environment booted.disk booted.logger (booted.options.textsOf .inputFiles)
    booted.options.textsOf .inputFiles = inputs.map (writtenOut application.disk) ∧
      booted'.options.textsOf .inputFiles = inputs ∧
      ∀ environment environment',
        expand booted environment = expand booted environment' ∧
          ((∀ input ∈ inputs, startsAtHome input = false) →
            SameExpansion application.disk (expand booted environment).1
              (expand booted' environment').1) := by
  intro booted booted' expand
  obtain ⟨stands, values, layered, listed⟩ :=
    layerOf_of_namesInputs names namesInputs noReference
  obtain ⟨_, _, isLayered, told⟩ := settledOf_eq_ok settles
  cases layered.symm.trans isLayered
  obtain ⟨layer', unloaded', layered', told'⟩ := settledOf_eq_ok settles'
  have uppermost : (valueOf? given OptionName.inputFiles.word).or
      (valueOf? values OptionName.inputFiles.word) =
      some (.list ((inputs.map (writtenOut application.disk)).map Value.text)) := by
    rw [notGiven, listed, Option.none_or]
  have uppermost' : (valueOf? given' OptionName.inputFiles.word).or
      (valueOf? layer' OptionName.inputFiles.word) = some (.list (inputs.map Value.text)) := by
    rw [isGiven, Option.some_or]
  obtain ⟨isWritten, sameDisk⟩ :=
    bootstrap_inputs application given layered told isMapping uppermost
  obtain ⟨isInputs, sameDisk'⟩ :=
    bootstrap_inputs application' given' layered' told' isMapping' uppermost'
  have written (environment : Environment) : expand booted environment =
      expandInputs environment application.disk booted.logger
        (inputs.map (writtenOut application.disk)) := by
    simp only [expand, booted, isWritten, sameDisk]
  have asGiven (environment : Environment) : expand booted' environment =
      expandInputs environment application.disk booted'.logger inputs := by
    simp only [expand, booted', isInputs, sameDisk']
    exact expandInputs_eq_of_outline sameOutline _ _ _
  refine ⟨isWritten, isInputs, fun environment environment' => ⟨?_, fun elsewhere => ?_⟩⟩
  · rw [written, written]
    exact expandFrom_writtenOut_home stands _ _ _ _ inputs
  · rw [written, asGiven]
    exact expandInputs_writtenOut stands _ _ _ _ elsewhere

end Ways

/-- A working directory with a configuration file and a package, beside a library and a home
directory. -/
def workDisk (configuration : String) : Disk :=
  { tree := .directory
      [ ("home", .directory [("m.py", .file [])]),
        ("lib", .directory [("x.py", .file [])]),
        ("work", .directory
          [ ("quire.yaml", .file (Text.encode configuration.toList)),
            ("pkg", .directory [("m.py", .file [])]) ]) ]
    workingDirectory := ["work"] }

theorem workDisk_names (configuration : String) :
    ∀ name ∈ (workDisk configuration).workingDirectory, IsName name :=
  List.forall_mem_singleton.mpr ⟨by decide, by decide, by decide, by decide⟩

/-- The configuration file of `workDisk`. -/
def workPath : Path := Path.ofString "/work/quire.yaml"

theorem find?_workDisk (configuration : String) :
    find? (workDisk configuration) "" = some workPath := by rfl

theorem read_workDisk (configuration : String) :
    (workDisk configuration).read workPath = .ok (Text.encode configuration.toList) := by rfl

theorem readFile_of_textOf {bytes : List UInt8} {text : List Char}
    (decodes : Yaml.textOf bytes = .ok text) : Yaml.readFile bytes = Yaml.read text := by
  rw [Yaml.readFile, decodes]
  rfl

theorem load_workDisk {environment : Environment} {configuration : String}
    {pairs values : List (Value × Value)}
    (parses : environment.platform.documents.read (Text.encode configuration.toList) =
      .ok (some (.mapping pairs)))
    (isMeant : pairs.mapM (meant environment (Path.ofString "/work")) = .ok values) :
    load environment (workDisk configuration) workPath = .ok values := by
  have holds : Holds environment (workDisk configuration) workPath workPath
      (Text.encode configuration.toList) :=
    ⟨environment.expandHome?_of_absolute (by rfl), by decide, read_workDisk configuration⟩
  rw [load_of_holds holds, readPairs, parses]
  exact isMeant

section ConfiguredInputs

variable {environment : Environment} {configuration : String} {inputs : List String}
  (parses : environment.platform.documents.read (Text.encode configuration.toList) =
    .ok (some (.mapping [(.text OptionName.inputFiles.word, .list (inputs.map Value.text))])))
  (noReference : ∀ input ∈ inputs, isReference input = false)

include parses noReference

theorem load_workDisk_inputs :
    load environment (workDisk configuration) workPath =
      .ok [(.text OptionName.inputFiles.word,
        .list ((inputs.map (writtenOut (workDisk configuration))).map Value.text))] := by
  have isMeant := meaning_inputs environment (workDisk configuration) noReference
  have each : [(Value.text OptionName.inputFiles.word, Value.list (inputs.map Value.text))].mapM
      (meant environment (Path.ofString "/work")) = .ok [(.text OptionName.inputFiles.word,
        .list ((inputs.map (writtenOut (workDisk configuration))).map Value.text))] := by
    have here : Disk.pathOf (workDisk configuration).workingDirectory = Path.ofString "/work" := by
      rfl
    rw [here] at isMeant
    rw [List.mapM_cons, meant, isMeant]
    rfl
  exact load_workDisk parses each

theorem namesInputs_workDisk : NamesInputs environment (workDisk configuration) inputs :=
  ⟨workPath, _, _, _, find?_workDisk configuration, read_workDisk configuration, parses, by rfl,
    load_workDisk_inputs parses noReference⟩

theorem layerOf_workDisk :
    layerOf environment (workDisk configuration) (configPath? (workDisk configuration) none) =
      .ok ([(.text OptionName.inputFiles.word,
        .list ((inputs.map (writtenOut (workDisk configuration))).map Value.text))], []) := by
  have found : configPath? (workDisk configuration) none = some workPath := find?_workDisk _
  rw [found, layerOf, load_workDisk_inputs parses noReference]

end ConfiguredInputs

/-- Nothing is exhausted where there are only inputs. -/
theorem told_inputs (room : Nat) (inputs : List String) :
    [(Value.text OptionName.inputFiles.word, Value.list (inputs.map Value.text))].findSome?
      (entryExhausts? room) = none := by
  rw [List.findSome?_cons, entryExhausts?_inputs]
  rfl

/-- Inputs of several forms name two files, whether they are configured or given. -/
theorem configured_inputs_expand_as_given_forms :
    let disk := workDisk "input_files: [pkg, ../lib/x.py, '']\n"
    let disk' := workDisk "\x7b\x7d\n"
    let inputs := ["pkg", "../lib/x.py", ""]
    let given' : List (Value × Value) := [(.text "input_files", .list (inputs.map Value.text))]
    let start : Application Unit := .initial .bare disk .empty [] ()
    let start' : Application Unit := .initial .bare disk' .empty [] ()
    let booted := ((bootstrap [] none).run start).2
    let booted' := ((bootstrap given' none).run start').2
    NamesInputs .bare disk inputs ∧ disk'.outline = disk.outline ∧
      booted.options.textsOf .inputFiles = ["/work/pkg", "/work/../lib/x.py", "/work"] ∧
      SameExpansion disk
        (expandInputs booted.environment booted.disk booted.logger
          (booted.options.textsOf .inputFiles)).1
        (expandInputs booted'.environment booted'.disk booted'.logger
          (booted'.options.textsOf .inputFiles)).1 := by
  intro disk disk' inputs given' start start' booted booted'
  have noReference : ∀ input ∈ inputs, isReference input = false := by decide +kernel
  have decodes : Yaml.textOf (Text.encode "input_files: [pkg, ../lib/x.py, '']\n".toList) =
      .ok "input_files: [pkg, ../lib/x.py, '']\n".toList := by cbv
  have tokens : Yaml.tokens "input_files: [pkg, ../lib/x.py, '']\n".toList =
      [.blockMappingStart, .key, .scalar "input_files".toList true, .value,
        .flowSequenceStart, .scalar "pkg".toList true, .flowEntry,
        .scalar "../lib/x.py".toList true, .flowEntry, .scalar "".toList false, .flowSequenceEnd,
        .blockEnd] := by
    decide +kernel
  have reads : Yaml.read "input_files: [pkg, ../lib/x.py, '']\n".toList = .ok (some (.mapping
      [(.text OptionName.inputFiles.word, .list (inputs.map Value.text))])) := by
    rw [Yaml.read, Yaml.Node.ofText, tokens]
    cbv
  have parses : Yaml.readFile (Text.encode "input_files: [pkg, ../lib/x.py, '']\n".toList) =
      .ok (some (.mapping
        [(.text OptionName.inputFiles.word, .list (inputs.map Value.text))])) :=
    (readFile_of_textOf decodes).trans reads
  have namesInputs : NamesInputs .bare disk inputs := namesInputs_workDisk parses noReference
  have parses' : Yaml.readFile (Text.encode "\x7b\x7d\n".toList) = .ok (some (.mapping [])) := by
    cbv
  have loads' : load .bare disk' workPath = .ok [] := load_workDisk parses' rfl
  have layered' : layerOf start'.environment start'.disk (configPath? start'.disk none) =
      .ok ([], []) := by
    have found : configPath? start'.disk none = some workPath := find?_workDisk _
    have loads : load start'.environment start'.disk workPath = _ := loads'
    rw [found, layerOf, loads]
  have isGiven : valueOf? given' OptionName.inputFiles.word =
      some (.list (inputs.map Value.text)) := rfl
  have layered : layerOf start.environment start.disk (configPath? start.disk none) = _ :=
    layerOf_workDisk parses noReference
  obtain ⟨settled, settles⟩ := settledOf_of_layer [] layered (told_inputs _ _)
  obtain ⟨settled', settles'⟩ := settledOf_of_layer given' layered' (told_inputs _ inputs)
  obtain ⟨isWritten, _, same⟩ := @configured_inputs_expand_as_given Unit start start' inputs []
    given' none settled settled' (workDisk_names _) namesInputs noReference .nil rfl settles rfl
    (List.pairwise_singleton _ _) isGiven settles'
  exact ⟨namesInputs, rfl, isWritten, (same _ _).2 (by decide +kernel)⟩

/-- The home directory of `workDisk`. -/
def home : Environment := { bindings := [("HOME", "/home")] }

/-- Written out, the home directory is a name below the working directory. -/
theorem expandInputs_home_writtenOut (configuration : String) (logger : Logger) :
    (expandInputs home (workDisk configuration) logger
      (["~/m.py"].map (writtenOut (workDisk configuration)))).1 = .ok [] := by
  have written : writtenOut (workDisk configuration) "~/m.py" = "/work/~/m.py" := by
    change writtenOut (workDisk "") "~/m.py" = "/work/~/m.py"
    rfl
  have absolute : home.expandHome? (Path.ofString "/work/~/m.py") =
      some (Path.ofString "/work/~/m.py") := by rfl
  have missing : candidates? (workDisk configuration) (Path.ofString "/work/~/m.py") =
      .ok none := by rfl
  rw [expandInputs, List.map_cons, List.map_nil, written, expandFrom, absolute]
  dsimp only
  rw [missing]
  rfl

theorem expandInputs_home (configuration : String) (logger : Logger) :
    (expandInputs home (workDisk configuration) logger ["~/m.py"]).1 =
      .ok [{ root := Path.ofString "/home", file := Path.ofString "/home/m.py" }] := by
  have found : home.expandHome? (Path.ofString "~/m.py") = some (Path.ofString "/home/m.py") := by
    cbv
  have only : candidates? (workDisk configuration) (Path.ofString "/home/m.py") =
      .ok (some [{ root := Path.ofString "/home", file := Path.ofString "/home/m.py" }]) := by rfl
  rw [expandInputs, expandFrom, found]
  dsimp only
  rw [only]
  rfl

/-- A configured input that is meant from the home directory is not found. -/
theorem not_configured_inputs_always_expand_as_given :
    ¬ ∀ (environment : Environment) (disk disk' : Disk) (inputs : List String),
      (∀ name ∈ disk.workingDirectory, IsName name) → NamesInputs environment disk inputs →
      (∀ input ∈ inputs, isReference input = false) → disk'.outline = disk.outline →
      let given' : List (Value × Value) := [(.text "input_files", .list (inputs.map Value.text))]
      let start : Application Unit := .initial environment disk .empty [] ()
      let start' : Application Unit := .initial environment disk' .empty [] ()
      let booted := ((bootstrap [] none).run start).2
      let booted' := ((bootstrap given' none).run start').2
      SameExpansion disk
        (expandInputs environment booted.disk booted.logger
          (booted.options.textsOf .inputFiles)).1
        (expandInputs environment booted'.disk booted'.logger
          (booted'.options.textsOf .inputFiles)).1 := by
  intro always
  let disk := workDisk "input_files: ['~/m.py']\n"
  let start : Application Unit := .initial home disk .empty [] ()
  let given' : List (Value × Value) :=
    [(.text "input_files", .list (["~/m.py"].map Value.text))]
  have noReference : ∀ input ∈ ["~/m.py"], isReference input = false := by decide +kernel
  have parses : Yaml.readFile (Text.encode "input_files: ['~/m.py']\n".toList) =
      .ok (some (.mapping
        [(.text OptionName.inputFiles.word, .list (["~/m.py"].map Value.text))])) := by
    cbv
  have namesInputs : NamesInputs home disk ["~/m.py"] := namesInputs_workDisk parses noReference
  have layered : layerOf start.environment start.disk (configPath? start.disk none) = _ :=
    layerOf_workDisk parses noReference
  obtain ⟨isWritten, sameDisk⟩ := bootstrap_inputs start [] layered (told_inputs _ _) .nil rfl
  obtain ⟨isGiven, sameDisk'⟩ :=
    bootstrap_inputs start given' layered (told_inputs _ _) (List.pairwise_singleton _ _) rfl
  have same := always home disk disk ["~/m.py"] (workDisk_names _) namesInputs noReference rfl
  change SameExpansion disk
    (expandInputs home ((bootstrap [] none).run start).2.disk
      ((bootstrap [] none).run start).2.logger
      (((bootstrap [] none).run start).2.options.textsOf .inputFiles)).1
    (expandInputs home ((bootstrap given' none).run start).2.disk
      ((bootstrap given' none).run start).2.logger
      (((bootstrap given' none).run start).2.options.textsOf .inputFiles)).1 at same
  rw [isWritten, sameDisk, isGiven, sameDisk'] at same
  have isFound (logger : Logger) : (expandInputs home start.disk logger ["~/m.py"]).1 = _ :=
    expandInputs_home _ logger
  have notFound (logger : Logger) : (expandInputs home start.disk logger
      (["~/m.py"].map (writtenOut disk))).1 = .ok [] := expandInputs_home_writtenOut _ logger
  rw [notFound, isFound] at same
  obtain ⟨⟨⟩⟩ := same

end Application

end ApiDocs
