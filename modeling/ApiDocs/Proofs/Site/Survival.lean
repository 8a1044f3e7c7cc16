import ApiDocs.Proofs.Convert.Inputs
import ApiDocs.Proofs.Site.Writing

/-!
# What rendering does to sources

An output directory is emptied unless it is or holds the working directory or an input.  A source
can be lost in one way only: the output directory holds it and stands inside an input.
-/

namespace ApiDocs.Site

open ApiDocs.Convert

/-! ## What is refused -/

section Refusal

variable {environment : Environment} {disk : Disk} {inputs : List String} {out : Path}

theorem heldInput?_eq_none_iff {place : List String} :
    heldInput? environment disk place inputs = .ok none ↔
      ∀ input ∈ inputs, ∃ path, environment.expandHome? (Path.ofString input) = some path ∧
        '\x00' ∉ path.text.toList ∧ ¬ place <+: disk.resolve path := by
  induction inputs with
  | nil =>
      constructor
      · intro _ input member
        cases member
      · intro _
        rfl
  | cons input inputs inductionHypothesis =>
      rw [heldInput?, List.forall_mem_cons]
      cases expanded : environment.expandHome? (Path.ofString input) with
      | none => simp
      | some path =>
          by_cases nullNamed : '\x00' ∈ path.text.toList
          · simp [nullNamed]
          · by_cases held : place <+: disk.resolve path
            · have isHeld : place.isPrefixOf (disk.resolve path) = true :=
                List.isPrefixOf_iff_prefix.mpr held
              simp [isHeld, held, nullNamed]
            · have notHeld := Bool.eq_false_iff.mpr (mt List.isPrefixOf_iff_prefix.mp held)
              simp [notHeld, held, nullNamed, inductionHypothesis]

/-- An output directory that is and holds neither the working directory nor an input, and in
whose place no file stands. -/
structure Separate (environment : Environment) (disk : Disk) (inputs : List String)
    (out : Path) : Prop where
  noNull : '\x00' ∉ out.text.toList
  workingDirectory : ¬ disk.resolve out <+: disk.workingDirectory
  inputs : ∀ input ∈ inputs, ∃ path, environment.expandHome? (Path.ofString input) = some path ∧
    '\x00' ∉ path.text.toList ∧ ¬ disk.resolve out <+: disk.resolve path
  noFile : ∀ content, disk.tree.get? (disk.resolve out) ≠ some (.file content)

theorem refusal?_of_null (nullNamed : '\x00' ∈ out.text.toList) :
    refusal? environment disk inputs out = .error .nullInName := by
  rw [refusal?, List.contains_iff_mem.mpr nullNamed]
  rfl

theorem refusal?_of_held (noNull : '\x00' ∉ out.text.toList)
    (held : disk.resolve out <+: disk.workingDirectory) :
    refusal? environment disk inputs out = .ok (some .holdsWorkingDirectory) := by
  rw [refusal?, Bool.eq_false_iff.mpr (mt List.contains_iff_mem.mp noNull)]
  simp only [Bool.false_eq_true, if_false]
  rw [List.isPrefixOf_iff_prefix.mpr held]
  rfl

theorem refusal?_of_heldInput? (noNull : '\x00' ∉ out.text.toList)
    (notHeld : (disk.resolve out).isPrefixOf disk.workingDirectory = false) :
    refusal? environment disk inputs out =
      match heldInput? environment disk (disk.resolve out) inputs with
      | .error failure => .error failure
      | .ok (some input) => .ok (some (.holdsInput input))
      | .ok none =>
        match disk.tree.get? (disk.resolve out) with
        | some (.file _) => .ok (some .notDirectory)
        | _ => .ok none := by
  rw [refusal?, Bool.eq_false_iff.mpr (mt List.contains_iff_mem.mp noNull)]
  simp only [Bool.false_eq_true, if_false]
  rw [notHeld]
  rcases heldInput? environment disk (disk.resolve out) inputs with failure | (_ | input)
  · rfl
  · rcases disk.tree.get? (disk.resolve out) with _ | (content | entries) <;> rfl
  · rfl

theorem refusal?_of_separate
    (separate : Separate environment disk inputs out) :
    refusal? environment disk inputs out = .ok none := by
  have notHeld :=
    Bool.eq_false_iff.mpr (mt List.isPrefixOf_iff_prefix.mp separate.workingDirectory)
  rw [refusal?_of_heldInput? separate.noNull notHeld,
    heldInput?_eq_none_iff.mpr separate.inputs]
  cases stands : disk.tree.get? (disk.resolve out) with
  | none => rfl
  | some entry =>
      cases entry with
      | file content => exact absurd stands (separate.noFile content)
      | directory entries => rfl

theorem separate_of_refusal?
    (accepted : refusal? environment disk inputs out = .ok none) :
    Separate environment disk inputs out := by
  by_cases nullNamed : '\x00' ∈ out.text.toList
  · rw [refusal?_of_null nullNamed] at accepted
    cases accepted
  · by_cases held : disk.resolve out <+: disk.workingDirectory
    · rw [refusal?_of_held nullNamed held] at accepted
      cases accepted
    · have notHeld := Bool.eq_false_iff.mpr (mt List.isPrefixOf_iff_prefix.mp held)
      rw [refusal?_of_heldInput? nullNamed notHeld] at accepted
      split at accepted
      · cases accepted
      · cases accepted
      · rename_i noneHeld
        refine ⟨nullNamed, held, heldInput?_eq_none_iff.mp noneHeld, ?_⟩
        intro content stands
        rw [stands] at accepted
        cases accepted

/-- Just the separate output directories are accepted. -/
theorem refusal?_eq_none_iff :
    refusal? environment disk inputs out = .ok none ↔ Separate environment disk inputs out :=
  ⟨separate_of_refusal?, refusal?_of_separate⟩

end Refusal

/-! ## What is cleared -/

section Clearing

variable {Observed : Type} {renderer : Renderer Observed} {out : Path} {place : List String}

/-- The output directory is accepted, and it is or holds a place. -/
def Clears (renderer : Renderer Observed) (out : Path) (place : List String) : Prop :=
  refusal? renderer.environment renderer.disk (renderer.options.textsOf .inputFiles) out =
      .ok none ∧
    renderer.disk.resolve out <+: place

/-- The output directory stands below a directory that an input names. -/
def InsideInput (renderer : Renderer Observed) (out : Path) : Prop :=
  ∃ input ∈ renderer.options.textsOf .inputFiles, ∃ path entries,
    renderer.environment.expandHome? (Path.ofString input) = some path ∧
      renderer.disk.tree.get? (renderer.disk.resolve path) = some (.directory entries) ∧
        renderer.disk.resolve path <+: renderer.disk.resolve out ∧
          renderer.disk.resolve path ≠ renderer.disk.resolve out

theorem fileAt?_cleared_of_clears
    (clears : Clears renderer out place) :
    (cleared renderer out).fileAt? place = none := by
  obtain ⟨accepted, holds⟩ := clears
  have inside : renderer.disk.resolve out ≠ [] := by
    intro root
    apply (separate_of_refusal? accepted).workingDirectory
    rw [root]
    exact List.nil_prefix
  rw [cleared, accepted]
  exact Disk.fileAt?_remove_of_prefix inside holds renderer.disk

theorem fileAt?_cleared_of_not_clears
    (keeps : ¬ Clears renderer out place) :
    (cleared renderer out).fileAt? place = renderer.disk.fileAt? place := by
  rw [cleared]
  split
  · rename_i accepted
    exact Disk.fileAt?_remove_of_not_prefix (fun holds => keeps ⟨accepted, holds⟩) renderer.disk
  · rfl

theorem notWritten_of_endsIn
    (ends : EndsIn sourceEnding place) :
    NotWritten place :=
  ⟨ends.not_endsIn (by decide) (by decide), ends.not_endsIn (by decide) (by decide)⟩

/-- A source that is cleared stands in an output directory inside an input. -/
theorem insideInput_of_clears
    {source : SourceInput}
    (wellNamed : renderer.disk.tree.WellNamed)
    (belongs : BelongsToOne renderer.environment renderer.disk
      (renderer.options.textsOf .inputFiles) source)
    (clears : Clears renderer out (renderer.disk.resolve source.file)) :
    InsideInput renderer out := by
  obtain ⟨accepted, holds⟩ := clears
  obtain ⟨input, member, path, expanded, belongs⟩ := belongs
  obtain ⟨path', expanded', _, apart⟩ := (separate_of_refusal? accepted).inputs input member
  obtain rfl : path = path' := Option.some.inj (expanded.symm.trans expanded')
  have different : source.file ≠ path := by
    intro same
    rw [same] at holds
    exact apart holds
  obtain ⟨entries, relative, stands, place⟩ := belongs.resolve_eq wellNamed different
  rw [place] at holds
  refine ⟨input, member, path, entries, expanded, stands, ?_, ?_⟩
  · rcases List.prefix_or_prefix_of_prefix holds (List.prefix_append _ relative) with
      outFirst | inputFirst
    · exact absurd outFirst apart
    · exact inputFirst
  · intro same
    apply apart
    rw [same]

/-- However rendering ends, it leaves every source as it is unless the output directory holds it.
Then the source is gone, and the output directory stood inside an input. -/
theorem render_keeps_sources
    {logger : Logger} {sources : List SourceInput} {source : SourceInput} {content : List UInt8}
    (wellNamed : renderer.disk.tree.WellNamed)
    (expands : (expandInputs renderer.environment renderer.disk logger
      (renderer.options.textsOf .inputFiles)).1 = .ok sources)
    (member : source ∈ sources)
    (stands : renderer.disk.fileAt? (renderer.disk.resolve source.file) = some content)
    (project : Project) (out : Path) :
    let place := renderer.disk.resolve source.file
    let after := ((render project out).run renderer).2.disk
    (¬ Clears renderer out place → after.fileAt? place = some content) ∧
      (Clears renderer out place → after.fileAt? place = none ∧ InsideInput renderer out) := by
  intro place after
  have belongs := belongsToOne_of_mem_expandInputs expands member
  have notWritten : NotWritten place := by
    obtain ⟨_, _, path, _, belongsToPath⟩ := belongs
    exact notWritten_of_endsIn belongsToPath.endsIn
  have kept : after.fileAt? place = (cleared renderer out).fileAt? place :=
    (render_keeps renderer project out).files place notWritten
  constructor
  · intro keeps
    rw [kept, fileAt?_cleared_of_not_clears keeps, stands]
  · intro clears
    exact ⟨by rw [kept, fileAt?_cleared_of_clears clears],
      insideInput_of_clears wellNamed belongs clears⟩

end Clearing

/-! ## A package with its documentation inside -/

/-- A directory of an input, with a source in a directory for documents. -/
def nestedDocuments : Renderer Unit :=
  { logger := .new .silent .none
    options := Options.initial.put .inputFiles (.texts ["src"])
    environment := .bare
    hooks := .empty
    events := .empty
    disk :=
      { tree := .directory [("src", .directory [("docs", .directory [("conf.py", .file [120])])])]
        workingDirectory := [] }
    observed := () }

def nestedSource : SourceInput :=
  { root := Path.ofString "src", file := { root := "", parts := ["src", "docs", "conf.py"] } }

def emptyProject : Project :=
  { readme := "", tree := .node (.ofName "" .project) [] }

theorem nestedDocuments_wellNamed : nestedDocuments.disk.tree.WellNamed := by
  have named {name : String} {entry : ApiDocs.Entry}
      (isName : IsName name) (below : entry.WellNamed) :
      (ApiDocs.Entry.directory [(name, entry)]).WellNamed :=
    .directory _ (List.forall_mem_singleton.mpr isName) (List.forall_mem_singleton.mpr below)
  exact named (by decide +kernel) (named (by decide +kernel)
    (named (by decide +kernel) (.file [120])))

theorem nestedDocuments_expands :
    (expandInputs nestedDocuments.environment nestedDocuments.disk nestedDocuments.logger
      (nestedDocuments.options.textsOf .inputFiles)).1 = .ok [nestedSource] := by
  have answers : (expandInputs nestedDocuments.environment nestedDocuments.disk
      nestedDocuments.logger
      (nestedDocuments.options.textsOf .inputFiles)).1.toOption = some [nestedSource] := by
    decide +kernel
  revert answers
  rcases (expandInputs nestedDocuments.environment nestedDocuments.disk nestedDocuments.logger
      (nestedDocuments.options.textsOf .inputFiles)).1 with failure | sources
  · intro answers
    cases answers
  · intro answers
    rw [Option.some.inj answers]

theorem nestedSource_stands :
    nestedDocuments.disk.fileAt? (nestedDocuments.disk.resolve nestedSource.file) = some [120] :=
  Disk.fileAt?_of_read rfl

/-- Beside the input, every source survives. -/
theorem render_keeps_sources_beside :
    let after := ((render emptyProject (Path.ofString "site")).run nestedDocuments).2.disk
    after.fileAt? (nestedDocuments.disk.resolve nestedSource.file) = some [120] := by
  have outside : ¬ Clears nestedDocuments (Path.ofString "site")
      (nestedDocuments.disk.resolve nestedSource.file) := by
    intro clears
    exact absurd clears.2 (by decide +kernel)
  exact (render_keeps_sources nestedDocuments_wellNamed nestedDocuments_expands
    List.mem_cons_self nestedSource_stands emptyProject (Path.ofString "site")).1 outside

/-- Not every source survives: one in an output directory inside an input does not. -/
theorem not_render_keeps_every_source :
    ¬ ∀ (renderer : Renderer Unit) (logger : Logger) (sources : List SourceInput)
        (source : SourceInput) (content : List UInt8) (project : Project) (out : Path),
      renderer.disk.tree.WellNamed →
      (∀ place ∈ project.root :: project.descendants, '/' ∉ place.declaration.name.toList) →
      (expandInputs renderer.environment renderer.disk logger
        (renderer.options.textsOf .inputFiles)).1 = .ok sources →
      source ∈ sources →
      renderer.disk.fileAt? (renderer.disk.resolve source.file) = some content →
      ((render project out).run renderer).2.disk.fileAt?
        (renderer.disk.resolve source.file) = some content := by
  intro survives
  have kept := survives nestedDocuments nestedDocuments.logger [nestedSource] nestedSource [120]
    emptyProject (Path.ofString "src/docs") nestedDocuments_wellNamed (by decide +kernel)
    nestedDocuments_expands List.mem_cons_self nestedSource_stands
  have clears : Clears nestedDocuments (Path.ofString "src/docs")
      (nestedDocuments.disk.resolve nestedSource.file) := by
    refine ⟨refusal?_eq_none_iff.mpr ⟨?_, ?_, ?_, ?_⟩, ?_⟩
    · decide +kernel
    · decide +kernel
    · intro input member
      obtain rfl : input = "src" := List.mem_singleton.mp member
      exact ⟨Path.ofString "src", by decide +kernel, by decide +kernel, by decide +kernel⟩
    · intro content stands
      cases stands
    · decide +kernel
  have written : NotWritten (nestedDocuments.disk.resolve nestedSource.file) :=
    notWritten_of_endsIn ⟨"conf.py", rfl, endsWith_append "conf" ".py"⟩
  rw [(render_keeps nestedDocuments emptyProject (Path.ofString "src/docs")).files _ written,
    fileAt?_cleared_of_clears clears] at kept
  cases kept

end ApiDocs.Site
