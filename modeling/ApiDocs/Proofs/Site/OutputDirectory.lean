import ApiDocs.Proofs.Files.Directories
import ApiDocs.Proofs.Log.Messages
import ApiDocs.Proofs.Site.Addresses
import ApiDocs.Proofs.Site.Survival

/-!
# The guard of the output directory

Before anything is rendered the output directory is emptied, unless it is or holds the working
directory or an input or a file stands in its place.  Which of the two it is depends on the places
of these alone; a refusal is reported and changes nothing else, and an empty directory is all that
changes otherwise.
-/

namespace ApiDocs

/-! ## Places -/

namespace Disk

/-- No place goes through two dots. -/
theorem resolve_ne_dots
    {disk : Disk} (named : ∀ part ∈ disk.workingDirectory, part ≠ "..") (path : Path) :
    ∀ part ∈ disk.resolve path, part ≠ ".." := by
  have stays (parts : List String) {start : List String}
      (startNamed : ∀ part ∈ start, part ≠ "..") :
      ∀ part ∈ parts.foldl step start, part ≠ ".." := by
    induction parts generalizing start with
    | nil => exact startNamed
    | cons head tail inductionHypothesis =>
        refine inductionHypothesis fun part member => ?_
        rw [step] at member
        split at member
        · exact startNamed part (List.mem_of_mem_dropLast member)
        · rename_i isName
          rcases List.mem_append.mp member with old | new
          · exact startNamed part old
          · rwa [List.mem_singleton.mp new]
  apply stays
  split
  · exact List.forall_mem_nil _
  · exact named

theorem standsAt?_eq_file_iff {disk : Disk} {place : List String} {content : List UInt8} :
    disk.standsAt? place = some (some content) ↔ disk.tree.get? place = some (.file content) := by
  rw [standsAt?, Entry.standsAt?]
  rcases disk.tree.get? place with _ | (other | entries) <;> simp [Entry.content?]

theorem standsAt?_remove {place other : List String} (apart : ¬ place <+: other) (disk : Disk) :
    (disk.remove place).standsAt? other = disk.standsAt? other :=
  Entry.standsAt?_put_of_not_prefix apart disk.tree none

end Disk

namespace Site

open ApiDocs.Computation

variable {Observed : Type} {renderer : Renderer Observed} {out : Path}

/-! ## The decision -/

/-- An output directory is or holds the working directory or an input, or a file stands in its
place. -/
def Refused (renderer : Renderer Observed) (out : Path) : Prop :=
  let place := renderer.disk.resolve out
  place <+: renderer.disk.workingDirectory ∨
    (∃ input ∈ renderer.options.textsOf .inputFiles, ∃ path,
      renderer.environment.expandHome? (Path.ofString input) = some path ∧
        place <+: renderer.disk.resolve path) ∨
    ∃ content, renderer.disk.tree.get? place = some (.file content)

/-- What is assumed of paths: the home directories of inputs are known, and no file stands where the
output directory would have to be in it. -/
structure Admissible (renderer : Renderer Observed) (out : Path) : Prop where
  workingDirectory : ∀ name ∈ renderer.disk.workingDirectory, IsName name
  inputs : ∀ input ∈ renderer.options.textsOf .inputFiles, ∃ path,
    renderer.environment.expandHome? (Path.ofString input) = some path
  noFileAbove : ∀ above, above <+: renderer.disk.resolve out → above ≠ renderer.disk.resolve out →
    ∀ content, renderer.disk.tree.get? above ≠ some (.file content)

/-- The null character stands neither in the output directory nor in an input. -/
structure NoNull (renderer : Renderer Observed) (out : Path) : Prop where
  out : '\x00' ∉ out.text.toList
  inputs : ∀ input ∈ renderer.options.textsOf .inputFiles, ∀ path,
    renderer.environment.expandHome? (Path.ofString input) = some path →
      '\x00' ∉ path.text.toList

/-- Where the home directories of inputs are known, it is known whether a place holds an input. -/
theorem heldInput?_eq_ok
    {environment : Environment} {inputs : List String} (disk : Disk) (place : List String)
    (known : ∀ input ∈ inputs, ∃ path,
      environment.expandHome? (Path.ofString input) = some path)
    (noNull : ∀ input ∈ inputs, ∀ path,
      environment.expandHome? (Path.ofString input) = some path → '\x00' ∉ path.text.toList) :
    ∃ held, heldInput? environment disk place inputs = .ok held ∧
      (held.isSome ↔ ∃ input ∈ inputs, ∃ path,
        environment.expandHome? (Path.ofString input) = some path ∧
          place <+: disk.resolve path) := by
  induction inputs with
  | nil => exact ⟨none, rfl, by simp⟩
  | cons input inputs inductionHypothesis =>
      obtain ⟨path, expanded⟩ := known input List.mem_cons_self
      have pathNoNull := noNull input List.mem_cons_self path expanded
      rw [heldInput?, expanded]
      simp only
      rw [Bool.eq_false_iff.mpr (mt List.contains_iff_mem.mp pathNoNull)]
      by_cases held : place <+: disk.resolve path
      · rw [List.isPrefixOf_iff_prefix.mpr held]
        exact ⟨some input, rfl, by
          simpa using Or.inl ⟨path, expanded, held⟩⟩
      · obtain ⟨rest, decided, isHeld⟩ := inductionHypothesis
          (fun other member => known other (List.mem_cons_of_mem input member))
          (fun other member => noNull other (List.mem_cons_of_mem input member))
        rw [Bool.eq_false_iff.mpr (mt List.isPrefixOf_iff_prefix.mp held)]
        refine ⟨rest, decided, isHeld.trans ?_⟩
        simp [expanded, held]

/-- It is decided whether the directory is refused. -/
theorem refusal?_eq_ok (admissible : Admissible renderer out) (noNull : NoNull renderer out) :
    ∃ decision, refusal? renderer.environment renderer.disk
        (renderer.options.textsOf .inputFiles) out = .ok decision ∧
      (decision.isSome ↔ Refused renderer out) := by
  by_cases held : renderer.disk.resolve out <+: renderer.disk.workingDirectory
  · exact ⟨_, refusal?_of_held noNull.out held, fun _ => Or.inl held, fun _ => rfl⟩
  · obtain ⟨input?, decided, isHeld⟩ := heldInput?_eq_ok renderer.disk
      (renderer.disk.resolve out) admissible.inputs noNull.inputs
    rw [refusal?_of_heldInput? noNull.out
      (Bool.eq_false_iff.mpr (mt List.isPrefixOf_iff_prefix.mp held)), decided]
    cases input? with
    | some input => exact ⟨_, rfl, fun _ => Or.inr (Or.inl (isHeld.mp rfl)), fun _ => rfl⟩
    | none =>
        have notHeld := isHeld.not.mp Bool.false_ne_true
        simp only [Refused, held, notHeld, false_or]
        rcases stands : renderer.disk.tree.get? (renderer.disk.resolve out) with
          _ | (content | entries)
        · exact ⟨_, rfl, by simp⟩
        · exact ⟨_, rfl, by simp⟩
        · exact ⟨_, rfl, by simp⟩

/-! ## What follows from it -/

section Decided

variable {refusal : Refusal}

theorem prepareOutput_of_refusal
    (decided : refusal? renderer.environment renderer.disk
      (renderer.options.textsOf .inputFiles) out = .ok (some refusal)) :
    (prepareOutput out).run renderer =
      (.ok false,
        { renderer with logger := renderer.logger.log .error (refusal.message out) }) := by
  rw [prepareOutput, run_bind, run_get]
  simp only
  rw [run_bind, decided, run_liftM]
  rfl

/-- Where the output directory is refused, nothing is rendered. -/
theorem render_of_refusal
    (decided : refusal? renderer.environment renderer.disk
      (renderer.options.textsOf .inputFiles) out = .ok (some refusal)) (project : Project) :
    (render project out).run renderer =
      (.ok (), { renderer with logger := renderer.logger.log .error (refusal.message out) }) := by
  rw [render, run_bind_ok (prepareOutput_of_refusal decided)]
  rfl

theorem onDisk_run (change : Disk → Except FileFault Disk) :
    (onDisk change).run renderer =
      match change renderer.disk with
      | .ok disk => (.ok (), { renderer with disk })
      | .error fault => (.error (.file fault), renderer) := by
  rw [onDisk, run_bind, run_get]
  simp only
  cases change renderer.disk <;> rfl

theorem prepareOutput_of_accepted
    (decided : refusal? renderer.environment renderer.disk
      (renderer.options.textsOf .inputFiles) out = .ok none) :
    (prepareOutput out).run renderer =
      match (renderer.disk.remove (renderer.disk.resolve out)).makeDirectories
          (Disk.pathOf (renderer.disk.resolve out)) false with
      | .ok disk => (.ok true, { renderer with disk })
      | .error fault => (.error (.file fault),
          { renderer with disk := renderer.disk.remove (renderer.disk.resolve out) }) := by
  rw [prepareOutput, run_bind, run_get]
  simp only
  rw [run_bind, decided, run_liftM]
  simp only
  rw [run_bind, onDisk_run]
  simp only
  rw [run_bind, onDisk_run]
  simp only
  cases (renderer.disk.remove (renderer.disk.resolve out)).makeDirectories
    (Disk.pathOf (renderer.disk.resolve out)) false <;> rfl

end Decided

/-! ## The guard -/

/-- An output directory that is not refused is not the root. -/
theorem resolve_ne_nil (accepted : ¬ Refused renderer out) : renderer.disk.resolve out ≠ [] := by
  intro root
  apply accepted
  rw [Refused, root]
  exact Or.inl List.nil_prefix

section Guard

variable (admissible : Admissible renderer out)
include admissible

/-- Once the output directory has been removed, no file stands on the way to it. -/
theorem noFile_of_removed (accepted : ¬ Refused renderer out) :
    (renderer.disk.remove (renderer.disk.resolve out)).NoFile (renderer.disk.resolve out) := by
  intro place isAbove content stands
  by_cases same : place = renderer.disk.resolve out
  · have gone := Entry.get?_put_none (resolve_ne_nil accepted) renderer.disk.tree
    rw [same] at stands
    exact Option.some_ne_none _ (stands.symm.trans gone)
  · have apart : ¬ renderer.disk.resolve out <+: place :=
      fun below => same (isAbove.eq_of_length_le below.length_le)
    rw [← Disk.standsAt?_eq_file_iff, Disk.standsAt?_remove apart,
      Disk.standsAt?_eq_file_iff] at stands
    exact admissible.noFileAbove place isAbove same content stands

variable (noNull : NoNull renderer out)
include noNull

theorem prepareOutput_eq_false_iff :
    ((prepareOutput out).run renderer).1 = .ok false ↔ Refused renderer out := by
  obtain ⟨decision, decided, isRefused⟩ := refusal?_eq_ok admissible noNull
  rw [← isRefused]
  cases decision with
  | some refusal => simp [prepareOutput_of_refusal decided]
  | none =>
      rw [prepareOutput_of_accepted decided]
      cases (renderer.disk.remove (renderer.disk.resolve out)).makeDirectories
        (Disk.pathOf (renderer.disk.resolve out)) false <;> simp

theorem exists_refusal_of_refused (refused : Refused renderer out) :
    ∃ refusal, refusal? renderer.environment renderer.disk
      (renderer.options.textsOf .inputFiles) out = .ok (some refusal) := by
  obtain ⟨decision, decided, isRefused⟩ := refusal?_eq_ok admissible noNull
  obtain ⟨refusal, rfl⟩ := Option.isSome_iff_exists.mp (isRefused.mpr refused)
  exact ⟨refusal, decided⟩

theorem refusal?_of_not_refused (accepted : ¬ Refused renderer out) :
    refusal? renderer.environment renderer.disk
      (renderer.options.textsOf .inputFiles) out = .ok none := by
  obtain ⟨decision, decided, isRefused⟩ := refusal?_eq_ok admissible noNull
  cases decision with
  | some refusal => exact absurd (isRefused.mp rfl) accepted
  | none => exact decided

/-- The guard of the output directory.  It is refused just when it is or holds the working directory
or an input or a file stands in its place; then one error is reported, nothing else changes, and
nothing is rendered.  Otherwise nothing is reported and what neither stands in the directory nor is
new on the way to it stays as it is; and unless a name on the way is too long, the directory is
empty in the end. -/
theorem prepareOutput_guards :
    (((prepareOutput out).run renderer).1 = .ok false ↔ Refused renderer out) ∧
    (Refused renderer out → ∃ refusal : Refusal,
      let after := { renderer with logger := renderer.logger.log .error (refusal.message out) }
      after.logger.errors = renderer.logger.errors + 1 ∧
        (prepareOutput out).run renderer = (.ok false, after) ∧
        ∀ project, (render project out).run renderer = (.ok (), after)) ∧
    (¬ Refused renderer out → ∃ outcome disk,
      (prepareOutput out).run renderer = (outcome, { renderer with disk }) ∧
        disk.workingDirectory = renderer.disk.workingDirectory ∧
        (∀ place, ¬ renderer.disk.resolve out <+: place →
          (place <+: renderer.disk.resolve out → renderer.disk.standsAt? place ≠ none) →
          disk.standsAt? place = renderer.disk.standsAt? place) ∧
        ((∀ name ∈ renderer.disk.resolve out, name.utf8ByteSize ≤ Disk.longestName) →
          outcome = .ok true ∧
            disk.tree.get? (renderer.disk.resolve out) = some (.directory []))) := by
  have named := Disk.resolve_ne_dots
    (fun name member => (admissible.workingDirectory name member).ne_dots) out
  refine ⟨prepareOutput_eq_false_iff admissible noNull, ?refused, ?accepted⟩
  case refused =>
    intro refused
    obtain ⟨refusal, decided⟩ := exists_refusal_of_refused admissible noNull refused
    exact ⟨refusal, Logger.errors_log _ .error _, prepareOutput_of_refusal decided,
      render_of_refusal decided⟩
  case accepted =>
    intro accepted
    rw [prepareOutput_of_accepted (refusal?_of_not_refused admissible noNull accepted)]
    have removed (place : List String) (apart : ¬ renderer.disk.resolve out <+: place) :=
      Disk.standsAt?_remove apart renderer.disk
    have makes (short : ∀ name ∈ renderer.disk.resolve out,
        name.utf8ByteSize ≤ Disk.longestName) :
        ∃ disk, (renderer.disk.remove (renderer.disk.resolve out)).makeDirectories
            (Disk.pathOf (renderer.disk.resolve out)) false = .ok disk ∧
          disk.tree.get? (renderer.disk.resolve out) = some (.directory []) :=
      Disk.makeDirectoriesFrom_of_absent
        (fun part member => ⟨named part member, short part member⟩)
        (noFile_of_removed admissible accepted) (Nat.le_refl _)
        (Entry.get?_put_none (resolve_ne_nil accepted) renderer.disk.tree)
    cases made : (renderer.disk.remove (renderer.disk.resolve out)).makeDirectories
        (Disk.pathOf (renderer.disk.resolve out)) false with
    | error fault =>
        refine ⟨_, _, rfl, rfl, fun place apart _ => removed place apart, fun short => ?_⟩
        obtain ⟨after, succeeds, _⟩ := makes short
        rw [made] at succeeds
        cases succeeds
    | ok disk =>
        have way := Disk.makeDirectoriesFrom_pathOf named made
        refine ⟨_, disk, rfl, way.workingDirectory, fun place apart old => ?_, fun short => ?_⟩
        · refine (way.stands place fun isAbove => ?_).trans (removed place apart)
          rw [removed place apart]
          exact old isAbove
        · obtain ⟨after, succeeds, empty⟩ := makes short
          rw [made] at succeeds
          obtain rfl := Except.ok.inj succeeds
          exact ⟨rfl, empty⟩

end Guard

theorem nestedDocuments_source_expands {path : Path} {input : String}
    (member : input ∈ nestedDocuments.options.textsOf .inputFiles)
    (expanded : nestedDocuments.environment.expandHome? (Path.ofString input) = some path) :
    path = Path.ofString "src" := by
  obtain rfl : input = "src" := List.mem_singleton.mp member
  have source : nestedDocuments.environment.expandHome? (Path.ofString "src") =
      some (Path.ofString "src") := by
    decide +kernel
  exact Option.some.inj (expanded.symm.trans source)

theorem nestedDocuments_noNull (noNull : '\x00' ∉ out.text.toList) :
    NoNull nestedDocuments out where
  out := noNull
  inputs := by
    intro input member path expanded
    rw [nestedDocuments_source_expands member expanded]
    decide +kernel

theorem nestedDocuments_admissible {name : String}
    (place : nestedDocuments.disk.resolve out = [name]) :
    Admissible nestedDocuments out where
  workingDirectory := List.forall_mem_nil _
  inputs := by
    intro input member
    obtain rfl : input = "src" := List.mem_singleton.mp member
    exact ⟨Path.ofString "src", by decide +kernel⟩
  noFileAbove := by
    intro above isAbove different content stands
    rw [place] at isAbove different
    rcases List.prefix_cons_iff.mp isAbove with rfl | ⟨rest, rfl, isNil⟩
    · cases stands
    · exact different (by rw [List.prefix_nil.mp isNil])

theorem not_refused_nestedDocuments {name : String}
    (place : nestedDocuments.disk.resolve out = [name]) (isElse : name ≠ "src") :
    ¬ Refused nestedDocuments out := by
  have elsewhere : (name == "src") = false := beq_eq_false_iff_ne.mpr isElse
  rintro (holds | ⟨input, member, path, expanded, holds⟩ | ⟨content, stands⟩)
  · rw [place] at holds
    exact absurd (List.prefix_nil.mp holds) (List.cons_ne_nil name [])
  · have sourcePlace : nestedDocuments.disk.resolve (Path.ofString "src") = ["src"] := by
      decide +kernel
    rw [place, nestedDocuments_source_expands member expanded, sourcePlace] at holds
    exact isElse (List.cons_prefix_cons.mp holds).1
  · rw [place, nestedDocuments, Entry.get?, List.lookup_cons, elsewhere] at stands
    cases stands

/-- Beside the input, a directory is made for the site; the directory of the input is refused. -/
theorem prepareOutput_guards_nested :
    (∃ disk,
      (prepareOutput (Path.ofString "site")).run nestedDocuments =
          (.ok true, { nestedDocuments with disk }) ∧
        disk.tree.get? ["site"] = some (.directory []) ∧
        disk.standsAt? ["src", "docs", "conf.py"] = some (some [120])) ∧
    ((prepareOutput (Path.ofString "src/docs/..")).run nestedDocuments).1 = .ok false := by
  have site : nestedDocuments.disk.resolve (Path.ofString "site") = ["site"] := by
    decide +kernel
  have source : nestedDocuments.disk.resolve (Path.ofString "src/docs/..") = ["src"] := by
    decide +kernel
  obtain ⟨outcome, disk, ran, _, kept, prepared⟩ :=
    (prepareOutput_guards (nestedDocuments_admissible site)
      (nestedDocuments_noNull (by decide +kernel))).2.2
      (not_refused_nestedDocuments site (by decide))
  rw [site] at kept prepared
  obtain ⟨rfl, empty⟩ := prepared (by decide +kernel)
  refine ⟨⟨disk, ran, empty, ?_⟩, ?_⟩
  · rw [kept ["src", "docs", "conf.py"] (by decide) (fun isAbove => absurd isAbove (by decide))]
    rfl
  · refine (prepareOutput_guards (nestedDocuments_admissible source)
      (nestedDocuments_noNull (by decide +kernel))).1.mpr ?_
    exact Or.inr (Or.inl ⟨"src", List.mem_cons_self, Path.ofString "src", by decide +kernel,
      by decide +kernel⟩)

section Named

variable {name : String} (isName : IsName name)
include isName

theorem nestedDocuments_resolve_name :
    nestedDocuments.disk.resolve (Path.ofString name) = [name] := by
  rw [Path.ofString_name isName]
  exact if_neg isName.ne_dots

/-- Where a name is too long, no directory is made. -/
theorem prepareOutput_of_long (noNull : '\x00' ∉ name.toList) (isElse : name ≠ "src")
    (long : Disk.longestName < name.utf8ByteSize) :
    ((prepareOutput (Path.ofString name)).run nestedDocuments).1.toOption = none := by
  have place := nestedDocuments_resolve_name isName
  rw [← Path.text_ofString_name isName] at noNull
  have decided := refusal?_of_not_refused (nestedDocuments_admissible place)
    (nestedDocuments_noNull noNull) (not_refused_nestedDocuments place isElse)
  have leads : (nestedDocuments.disk.remove [name]).locate (Disk.pathOf [name]) =
      .error .nameTooLong :=
    if_pos long
  have failed : (nestedDocuments.disk.remove [name]).ensureDirectory (Disk.pathOf [name]) false =
      .error ⟨.nameTooLong, (Disk.pathOf [name]).text⟩ := by
    rw [Disk.ensureDirectory, Disk.makeDirectory, leads]
    rfl
  have made : (nestedDocuments.disk.remove [name]).makeDirectories (Disk.pathOf [name]) false =
      .error ⟨.nameTooLong, (Disk.pathOf [name]).text⟩ := by
    have levels : (Disk.pathOf [name]).parts.length = 0 + 1 := rfl
    rw [Disk.makeDirectories, levels, Disk.makeDirectoriesFrom, failed]
    rfl
  rw [prepareOutput_of_accepted decided, place, made]
  rfl

end Named

/-- A name that is too long for the files. -/
def longName : String := String.ofList (List.replicate 256 'x')

theorem eq_of_mem_longName {character : Char} (member : character ∈ longName.toList) :
    character = 'x' := by
  have characters : longName.toList = List.replicate 256 'x' := String.toList_ofList
  exact List.eq_of_mem_replicate (characters ▸ member)

theorem longName_isName : IsName longName where
  ne_empty := by decide +kernel
  ne_dot := by decide +kernel
  ne_dots := by decide +kernel
  no_slash member := absurd (eq_of_mem_longName member) (by decide)

/-- An output directory is not always refused or prepared: its name can be too long, or hold the
null character. -/
theorem not_prepareOutput_always_answers :
    (Admissible nestedDocuments (Path.ofString longName) ∧
      ¬ Refused nestedDocuments (Path.ofString longName) ∧
      ((prepareOutput (Path.ofString longName)).run nestedDocuments).1.toOption = none) ∧
    (Admissible nestedDocuments (Path.ofString "a\x00b") ∧
      ¬ Refused nestedDocuments (Path.ofString "a\x00b") ∧
      ((prepareOutput (Path.ofString "a\x00b")).run nestedDocuments).1.toOption = none) := by
  have long := nestedDocuments_resolve_name longName_isName
  have null := nestedDocuments_resolve_name (by decide : IsName "a\x00b")
  have isElse : longName ≠ "src" := by decide +kernel
  have noNull : '\x00' ∉ longName.toList := fun member =>
    absurd (eq_of_mem_longName member) (by decide)
  exact ⟨⟨nestedDocuments_admissible long, not_refused_nestedDocuments long isElse,
      prepareOutput_of_long longName_isName noNull isElse (by decide +kernel)⟩,
    nestedDocuments_admissible null, not_refused_nestedDocuments null (by decide),
      by decide +kernel⟩

end Site

end ApiDocs
