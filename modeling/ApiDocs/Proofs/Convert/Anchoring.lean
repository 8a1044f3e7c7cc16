import ApiDocs.Convert.Outline
import ApiDocs.Proofs.Convert.Absence
import ApiDocs.Proofs.Files.Outline
import ApiDocs.Proofs.Files.WorkingDirectory

/-!
# Inputs from the working directory

What inputs expand to depends on the outline of the file system only.  Inputs that are written out
from the working directory expand to the same files as the inputs, and these get the same names.
-/

namespace ApiDocs.Convert

variable {disk other : Disk} {environment : Environment}

/-! ## Outlines -/

theorem sourcesBelow_outline (entry : ApiDocs.Entry) :
    sourcesBelow entry.outline = sourcesBelow entry := by
  rw [sourcesBelow, sourcesBelow, Disk.below_outline]

theorem candidates?_outline (disk : Disk) (path : Path) :
    candidates? disk.outline path = candidates? disk path := by
  rw [candidates?, candidates?, Disk.locate_outline]
  cases disk.locate path with
  | error problem => cases problem <;> rfl
  | ok place =>
      have stands : disk.outline.tree.get? place =
          (disk.tree.get? place).map ApiDocs.Entry.outline :=
        disk.tree.get?_outline place
      simp only [stands]
      cases disk.tree.get? place with
      | none => rfl
      | some entry =>
          cases entry with
          | file content => rfl
          | directory entries =>
              have same := sourcesBelow_outline (.directory entries)
              rw [ApiDocs.Entry.outline] at same
              simp only [Option.map_some, ApiDocs.Entry.outline, same]

theorem expandFrom_outline (environment : Environment) (disk : Disk) (found : Found)
    (logger : Logger) (inputs : List String) :
    expandFrom environment disk.outline found logger inputs =
      expandFrom environment disk found logger inputs := by
  induction inputs generalizing found logger with
  | nil => rfl
  | cons input inputs inductionHypothesis =>
      rw [expandFrom, expandFrom]
      simp only [candidates?_outline, inductionHypothesis]
      rfl

theorem expandInputs_eq_of_outline (same : disk.outline = other.outline)
    (environment : Environment) (logger : Logger) (inputs : List String) :
    expandInputs environment disk logger inputs = expandInputs environment other logger inputs := by
  rw [expandInputs, expandInputs, ← expandFrom_outline, same, expandFrom_outline]

/-! ## Sources that are written out -/

/-- A source, written out from the working directory. -/
def SourceInput.anchored (disk : Disk) (source : SourceInput) : SourceInput :=
  { root := disk.anchor source.root, file := disk.anchor source.file }

/-- What has been found, written out. -/
def Found.anchored (disk : Disk) (found : Found) : Found :=
  { found with sources := found.sources.map (SourceInput.anchored disk) }

theorem foldl_add_anchored (stands : disk.Stands) (found : Found) (sources : List SourceInput) :
    (sources.map (SourceInput.anchored disk)).foldl (Found.add disk) (found.anchored disk) =
      (sources.foldl (Found.add disk) found).anchored disk := by
  induction sources generalizing found with
  | nil => rfl
  | cons source sources inductionHypothesis =>
      have added : (found.anchored disk).add disk (source.anchored disk) =
          (found.add disk source).anchored disk := by
        have samePlace : disk.resolve (source.anchored disk).file = disk.resolve source.file :=
          disk.resolve_anchor stands source.file
        have samePlaces : (found.anchored disk).places = found.places := rfl
        rw [Found.add, Found.add, samePlace, samePlaces]
        by_cases old : found.places.contains (disk.resolve source.file) = true
        · rw [if_pos old, if_pos old]
        · rw [if_neg old, if_neg old, Found.anchored, Found.anchored, List.map_append]
          rfl
      rw [List.map_cons, List.foldl_cons, List.foldl_cons, added, inductionHypothesis]

section Named

variable {path : Path} (named : ¬ path.isAbsolute = true → path.parts ≠ [])
include named

theorem parent_anchor : (disk.anchor path).parent = disk.anchor path.parent := by
  by_cases absolute : path.isAbsolute = true
  · rw [Disk.anchor_of_absolute absolute, Disk.anchor_of_absolute (by exact absolute)]
  · rw [Disk.anchor_of_relative absolute, Disk.anchor_of_relative (by exact absolute),
      Path.parent, Path.parent, Disk.pathOf, Disk.pathOf,
      List.dropLast_append_of_ne_nil (named absolute)]

theorem suffix_anchor : (disk.anchor path).suffix = path.suffix := by
  by_cases absolute : path.isAbsolute = true
  · rw [Disk.anchor_of_absolute absolute]
  · rw [Disk.anchor_of_relative absolute, Path.suffix, Path.suffix, Path.name, Path.name,
      Disk.pathOf, List.getLast?_append_of_ne_nil _ (named absolute)]

end Named

/-- A path that is written out has the candidates of the path, written out. -/
theorem candidates?_anchor (stands : disk.Stands) (path : Path) :
    candidates? disk (disk.anchor path) =
      match candidates? disk path with
      | .ok sources? => .ok (sources?.map (List.map (SourceInput.anchored disk)))
      | .error fault => .error { fault with path := (disk.anchor path).text } := by
  have belowAnchor (place : List String) :
      ({ disk.anchor path with parts := (disk.anchor path).parts ++ place } : Path) =
        disk.anchor { path with parts := path.parts ++ place } := by
    by_cases absolute : path.isAbsolute = true
    · rw [Disk.anchor_of_absolute absolute, Disk.anchor_of_absolute (by exact absolute)]
    · rw [Disk.anchor_of_relative absolute, Disk.anchor_of_relative (by exact absolute),
        Disk.pathOf, Disk.pathOf, List.append_assoc]
  rw [candidates?, candidates?, Disk.locate_anchor stands]
  cases located : disk.locate path with
  | error problem => cases problem <;> rfl
  | ok place =>
      dsimp only
      cases found : disk.tree.get? place with
      | none => rfl
      | some entry =>
          cases entry with
          | directory entries =>
              simp only [Option.map_some, List.map_map]
              congr 3
              funext place
              exact congrArg (SourceInput.mk (disk.anchor path)) (belowAnchor place)
          | file content =>
              -- a relative path without components is the working directory, and no file
              have named : ¬ path.isAbsolute = true → path.parts ≠ [] := by
                intro relative empty
                rw [Disk.locate, if_neg relative, empty] at located
                obtain rfl := Except.ok.inj located
                obtain ⟨entries, isDirectory⟩ := stands.isThere
                rw [found] at isDirectory
                cases isDirectory
              simp only [suffix_anchor named, parent_anchor named]
              split <;> rfl

/-! ## Expansions -/

/-- A text whose path begins with a tilde is meant from a home directory. -/
def startsAtHome (input : String) : Bool :=
  !(Path.ofString input).isAbsolute &&
    (Path.ofString input).parts.head?.any fun first => first.startsWith "~"

theorem expandHome?_of_not_startsAtHome (environment : Environment) {input : String}
    (elsewhere : startsAtHome input = false) :
    environment.expandHome? (Path.ofString input) = some (Path.ofString input) := by
  by_cases absolute : (Path.ofString input).isAbsolute = true
  · exact environment.expandHome?_of_absolute absolute
  · rw [startsAtHome, Bool.eq_false_iff.mpr absolute, Bool.not_false, Bool.true_and] at elsewhere
    unfold Environment.expandHome?
    split
    · rename_i first rest noRoot parts
      rw [parts, List.head?_cons, Option.any_some] at elsewhere
      rw [if_neg (Bool.eq_false_iff.mp elsewhere)]
    · rfl

/-- The text of an input that is written out from the working directory. -/
def writtenOut (disk : Disk) (input : String) : String := (disk.anchor (Path.ofString input)).text

/-- A source is another one, written out from the working directory: it is the same file, and has
the same name in the project. -/
structure SameSource (disk : Disk) (written source : SourceInput) : Prop where
  file : written.file = disk.anchor source.file
  place : disk.resolve written.file = disk.resolve source.file
  moduleName : moduleName (written.file.relativeTo written.root) =
    moduleName (source.file.relativeTo source.root)
  sourcePath : (written.file.relativeTo written.root).text =
    (source.file.relativeTo source.root).text

/-- Two expansions find the same files, or both are asked for a name that is too long. -/
inductive SameExpansion (disk : Disk) :
    Except Failure (List SourceInput) → Except Failure (List SourceInput) → Prop where
  | found {written sources : List SourceInput}
      (same : List.Forall₂ (SameSource disk) written sources) :
      SameExpansion disk (.ok written) (.ok sources)
  | overlong (path path' : String) :
      SameExpansion disk (.error (.file { problem := .nameTooLong, path }))
        (.error (.file { problem := .nameTooLong, path := path' }))

/-- A source is relative just if its root is. -/
def SourceInput.Together (source : SourceInput) : Prop := source.file.root = source.root.root

theorem SourceInput.Together.sameSource (stands : disk.Stands) {source : SourceInput}
    (together : source.Together) : SameSource disk (source.anchored disk) source where
  file := rfl
  place := disk.resolve_anchor stands source.file
  moduleName := congrArg Convert.moduleName (Disk.relativeTo_anchor together)
  sourcePath := congrArg Path.text (Disk.relativeTo_anchor together)

theorem together_of_candidates? {path : Path} {sources? : Option (List SourceInput)}
    (finds : candidates? disk path = .ok sources?) :
    ∀ source ∈ sources?.getD [], source.Together := by
  rw [candidates?] at finds
  split at finds
  · cases finds
  · cases finds
    exact List.forall_mem_nil _
  · split at finds
    · cases finds
      intro source member
      obtain ⟨place, _, rfl⟩ := List.mem_map.mp member
      rfl
    · split at finds
      · cases finds
        exact List.forall_mem_singleton.mpr rfl
      · cases finds
        exact List.forall_mem_nil _
    · cases finds
      exact List.forall_mem_nil _

theorem candidates?_eq_error {path : Path} {fault : FileFault}
    (fails : candidates? disk path = .error fault) : fault.problem = .nameTooLong := by
  rw [candidates?] at fails
  split at fails
  · exact (congrArg FileFault.problem (Except.error.inj fails)).symm
  · cases fails
  · split at fails
    · cases fails
    · split at fails <;> cases fails
    · cases fails

/-- Written out inputs expand to the files that the inputs expand to, if none of these is meant from
a home directory. -/
theorem expandFrom_writtenOut (stands : disk.Stands) (environment environment' : Environment)
    {found : Found} (together : ∀ source ∈ found.sources, source.Together)
    (logger logger' : Logger) {inputs : List String}
    (elsewhere : ∀ input ∈ inputs, startsAtHome input = false) :
    SameExpansion disk
      (expandFrom environment disk (found.anchored disk) logger
        (inputs.map (writtenOut disk))).1
      (expandFrom environment' disk found logger' inputs).1 := by
  induction inputs generalizing found logger logger' with
  | nil =>
      refine .found (List.forall₂_map_left_iff.mpr (List.forall₂_same.mpr ?_))
      exact fun source member => (together source member).sameSource stands
  | cons input inputs inductionHypothesis =>
      obtain ⟨inputElsewhere, othersElsewhere⟩ := List.forall_mem_cons.mp elsewhere
      have home := expandHome?_of_not_startsAtHome environment' inputElsewhere
      have outHome : environment.expandHome? (Path.ofString (writtenOut disk input)) =
          some (disk.anchor (Path.ofString input)) :=
        disk.expandHome?_anchor stands environment input
      have written := candidates?_anchor stands (Path.ofString input)
      cases candidates : candidates? disk (Path.ofString input) with
      | error fault =>
          have isOverlong := candidates?_eq_error candidates
          rw [candidates] at written
          rw [List.map_cons, expandFrom, expandFrom]
          simp only [home, outHome, candidates, written]
          obtain ⟨problem, path⟩ := fault
          obtain rfl : problem = .nameTooLong := isOverlong
          exact .overlong _ _
      | ok sources? =>
          rw [candidates] at written
          rw [List.map_cons, expandFrom_cons outHome written, expandFrom_cons home candidates]
          have added := foldl_add_anchored stands found (sources?.getD [])
          have sameSources : (sources?.map (List.map (SourceInput.anchored disk))).getD [] =
              (sources?.getD []).map (SourceInput.anchored disk) := by
            cases sources? <;> rfl
          rw [sameSources, added]
          refine inductionHypothesis (fun source member => ?_) _ _ othersElsewhere
          rcases mem_foldl_add member with old | new
          · exact together source old
          · exact together_of_candidates? candidates source new

theorem expandInputs_writtenOut (stands : disk.Stands) (environment environment' : Environment)
    (logger logger' : Logger) {inputs : List String}
    (elsewhere : ∀ input ∈ inputs, startsAtHome input = false) :
    SameExpansion disk
      (expandInputs environment disk logger (inputs.map (writtenOut disk))).1
      (expandInputs environment' disk logger' inputs).1 := by
  have none : ∀ source ∈ ({ sources := [], places := [] } : Found).sources, source.Together :=
    List.forall_mem_nil _
  exact expandFrom_writtenOut stands environment environment' none logger logger' elsewhere

/-- No home directory is put into written out inputs. -/
theorem expandFrom_writtenOut_home (stands : disk.Stands) (environment environment' : Environment)
    (found : Found) (logger : Logger) (inputs : List String) :
    expandFrom environment disk found logger (inputs.map (writtenOut disk)) =
      expandFrom environment' disk found logger (inputs.map (writtenOut disk)) := by
  induction inputs generalizing found logger with
  | nil => rfl
  | cons input inputs inductionHypothesis =>
      have home (environment : Environment) :
          environment.expandHome? (Path.ofString (writtenOut disk input)) =
            some (disk.anchor (Path.ofString input)) :=
        disk.expandHome?_anchor stands environment input
      rw [List.map_cons, expandFrom, expandFrom]
      simp only [home, inductionHypothesis]

end ApiDocs.Convert
