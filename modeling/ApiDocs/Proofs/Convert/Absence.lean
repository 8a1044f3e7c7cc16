import ApiDocs.Proofs.Convert.FileWise
import ApiDocs.Proofs.Convert.Inputs
import ApiDocs.Proofs.Files.Absence
import Mathlib.Data.List.Sort
import Mathlib.Data.String.Basic

/-!
# Sources that are absent

Without some of its files, a file system has the same sources but for those: they are found in the
same order and read alike.
-/

namespace ApiDocs.Convert

open ApiDocs.Source (SourceFile)

/-! ## The order of sources -/

theorem precedes_iff {first second : List String} :
    precedes first second = true ↔ first ≤ second := by
  rw [← not_lt]
  change _ ↔ ¬ List.Lex (· < ·) second first
  induction first generalizing second with
  | nil =>
      rw [precedes]
      exact iff_of_true rfl List.not_lex_nil
  | cons head tail inductionHypothesis =>
      cases second with
      | nil =>
          rw [precedes]
          exact iff_of_false Bool.false_ne_true (not_not_intro List.Lex.nil)
      | cons head' tail' =>
          rw [precedes, List.cons_lex_cons_iff]
          split
          · rename_i same
            rw [inductionHypothesis, same]
            simp
          · rename_i different
            rw [decide_eq_true_iff]
            constructor
            · rintro before (after | ⟨same, _⟩)
              · exact lt_asymm before after
              · exact different same.symm
            · intro neither
              exact (lt_or_gt_of_ne different).resolve_right fun after => neither (Or.inl after)

theorem mergeSort_sorted (places : List (List String)) :
    (places.mergeSort precedes).Pairwise fun first second => precedes first second = true := by
  apply List.pairwise_mergeSort
  · intro first second third
    rw [precedes_iff, precedes_iff, precedes_iff]
    exact le_trans
  · intro first second
    rw [Bool.or_eq_true, precedes_iff, precedes_iff]
    exact le_total first second

/-- Places that are left out before sorting are left out afterwards. -/
theorem mergeSort_filter (keep : List String → Bool) (places : List (List String)) :
    (places.filter keep).mergeSort precedes = (places.mergeSort precedes).filter keep := by
  -- both are sorted, and each is a permutation of the other
  apply List.Perm.eq_of_pairwise _ (mergeSort_sorted _) ((mergeSort_sorted places).filter keep)
  · exact (List.mergeSort_perm _ _).trans ((List.mergeSort_perm places precedes).symm.filter keep)
  · intro first second _ _
    rw [precedes_iff, precedes_iff]
    exact le_antisymm

variable {absent : List String → Bool} {disk : Disk} {path : Path}

theorem sourcesBelow_without
    {entry : ApiDocs.Entry}
    (onlyFiles : ApiDocs.Entry.OnlyFiles absent (Disk.below [] entry)) :
    sourcesBelow (entry.without absent) =
      (sourcesBelow entry).filter fun place => !absent place := by
  rw [sourcesBelow, sourcesBelow, Disk.below_without absent entry onlyFiles, List.filter_comm,
    mergeSort_filter]

/-! ## Sources of inputs -/

/-- A source is not among what is absent. -/
def SourceInput.isKept (disk : Disk) (absent : List String → Bool) (source : SourceInput) : Bool :=
  !absent (disk.resolve source.file)

theorem isKept_of_resolve {source : SourceInput} {place : List String}
    (isPlace : disk.resolve source.file = place) :
    source.isKept disk absent = !absent place := by
  rw [SourceInput.isKept, isPlace]

/-- A directory has the sources that it had, but for what is absent. -/
theorem map_sourcesBelow_without
    (lacks : disk.Lacks absent) (wellNamed : disk.tree.WellNamed)
    {entry : ApiDocs.Entry} (stands : disk.tree.get? (disk.resolve path) = some entry) :
    let source (relative : List String) : SourceInput :=
      { root := path, file := { path with parts := path.parts ++ relative } }
    (sourcesBelow (entry.without fun rest => absent (disk.resolve path ++ rest))).map source =
      ((sourcesBelow entry).map source).filter (SourceInput.isKept disk absent) := by
  intro source
  rw [sourcesBelow_without (lacks.onlyFiles_of_get? stands), List.filter_map]
  congr 1
  apply List.filter_congr
  intro relative member
  rw [sourcesBelow, List.mem_mergeSort, List.mem_filter, List.mem_map] at member
  obtain ⟨⟨found, listed, rfl⟩, _⟩ := member
  have named : ∀ name ∈ found.1, IsName name :=
    (wellNamed.of_get? stands).isName_of_mem_below (List.forall_mem_nil _) listed
  have isPlace : disk.resolve (source found.1).file = disk.resolve path ++ found.1 :=
    Disk.resolve_append_parts (fun name member => (named name member).ne_dots) disk path
  exact (isKept_of_resolve isPlace).symm

/-- An input has the sources that it had, but for what is absent. -/
theorem candidates?_without
    (lacks : disk.Lacks absent) (wellNamed : disk.tree.WellNamed)
    {sources? : Option (List SourceInput)}
    (found : candidates? disk path = .ok sources?) :
    ∃ others?, candidates? (disk.without absent) path = .ok others? ∧
      others?.getD [] = (sources?.getD []).filter (SourceInput.isKept disk absent) := by
  rw [candidates?.eq_def] at found
  rw [candidates?.eq_def]
  rcases lacks.locate_without path with leads | ⟨leads, led⟩
  · rw [leads]
    split at found
    · cases found
    · cases found
      exact ⟨none, rfl, rfl⟩
    · rename_i place located
      obtain rfl := Disk.resolve_of_locate located
      rw [lacks.get?_without]
      split at found
      · rename_i entries stands
        obtain rfl := Except.ok.inj found
        rw [lacks.not_absent_of_directory stands, stands]
        exact ⟨_, rfl, map_sourcesBelow_without lacks wellNamed stands⟩
      · rename_i content stands
        have kept : SourceInput.isKept disk absent { root := path.parent, file := path } =
            !absent (disk.resolve path) := isKept_of_resolve rfl
        rw [stands]
        by_cases gone : absent (disk.resolve path) = true
        · -- the input is the absent file: it is rejected now, and was its own only source
          refine ⟨none, by rw [if_pos gone], ?_⟩
          split at found <;> obtain rfl := Except.ok.inj found
          · rw [Option.getD_some, List.filter_cons, kept, gone]
            rfl
          · rfl
        · refine ⟨sources?, by rw [if_neg gone]; exact found, ?_⟩
          split at found <;> obtain rfl := Except.ok.inj found
          · rw [Option.getD_some, List.filter_cons, kept, Bool.eq_false_iff.mpr gone]
            rfl
          · rfl
      · rename_i stands
        rw [stands, Option.map_none, ite_self]
        cases found
        exact ⟨none, rfl, rfl⟩
  · rw [led] at found
    rw [leads]
    cases found
    exact ⟨none, rfl, rfl⟩

/-! ## Sources of all inputs -/

/-- What has been found, but for what is absent. -/
def Found.without (disk : Disk) (absent : List String → Bool) (found : Found) : Found :=
  { sources := found.sources.filter (SourceInput.isKept disk absent)
    places := found.places.filter fun place => !absent place }

theorem add_without (found : Found) (source : SourceInput) :
    (found.add disk source).without disk absent =
      if source.isKept disk absent then
        (found.without disk absent).add (disk.without absent) source
      else found.without disk absent := by
  have samePlace : (disk.without absent).resolve source.file = disk.resolve source.file :=
    Disk.resolve_congr rfl source.file
  rw [isKept_of_resolve rfl, Found.add, Found.add, samePlace]
  cases gone : absent (disk.resolve source.file) with
  | true =>
      split
      · rfl
      · simp [Found.without, isKept_of_resolve rfl, gone]
  | false =>
      have samePlaces : (found.without disk absent).places.contains (disk.resolve source.file) =
          found.places.contains (disk.resolve source.file) := by
        simp [Found.without, gone]
      rw [samePlaces]
      split
      · rfl
      · simp [Found.without, isKept_of_resolve rfl, gone]

theorem foldl_add_without (found : Found) (sources : List SourceInput) :
    (sources.foldl (Found.add disk) found).without disk absent =
      (sources.filter (SourceInput.isKept disk absent)).foldl (Found.add (disk.without absent))
        (found.without disk absent) := by
  induction sources generalizing found with
  | nil => rfl
  | cons source sources inductionHypothesis =>
      rw [List.foldl_cons, inductionHypothesis, add_without, List.filter_cons]
      split <;> rfl

/-- The sources of the first input are added before the others are looked at. -/
theorem expandFrom_cons
    {environment : Environment} {found : Found} {logger : Logger} {input : String}
    {inputs : List String} {sources? : Option (List SourceInput)}
    (home : environment.expandHome? (Path.ofString input) = some path)
    (isSource : candidates? disk path = .ok sources?) :
    (expandFrom environment disk found logger (input :: inputs)).1 =
      (expandFrom environment disk ((sources?.getD []).foldl (Found.add disk) found) logger
        inputs).1 := by
  rw [expandFrom]
  simp only [home, isSource]
  cases sources? with
  | none => exact expandFrom_fst environment disk found _ logger inputs
  | some sources => rfl

/-- Inputs have the sources that they had, but for what is absent. -/
theorem expandFrom_without
    (lacks : disk.Lacks absent) (wellNamed : disk.tree.WellNamed)
    {environment : Environment} {found : Found} {logger : Logger} {inputs : List String}
    {sources : List SourceInput}
    (expanded : (expandFrom environment disk found logger inputs).1 = .ok sources) :
    (expandFrom environment (disk.without absent) (found.without disk absent) logger inputs).1 =
      .ok (sources.filter (SourceInput.isKept disk absent)) := by
  induction inputs generalizing found logger with
  | nil =>
      obtain rfl := Except.ok.inj expanded
      rfl
  | cons input inputs inductionHypothesis =>
      cases home : environment.expandHome? (Path.ofString input) with
      | none =>
          rw [expandFrom] at expanded
          simp only [home] at expanded
          cases expanded
      | some path =>
          cases isSource : candidates? disk path with
          | error fault =>
              rw [expandFrom] at expanded
              simp only [home, isSource] at expanded
              cases expanded
          | ok sources? =>
              obtain ⟨others?, others, same⟩ := candidates?_without lacks wellNamed isSource
              rw [expandFrom_cons home isSource] at expanded
              rw [expandFrom_cons home others, same, ← foldl_add_without]
              exact inductionHypothesis expanded

theorem expandInputs_without
    (lacks : disk.Lacks absent) (wellNamed : disk.tree.WellNamed)
    {environment : Environment} {logger : Logger} {inputs : List String}
    {sources : List SourceInput}
    (expanded : (expandInputs environment disk logger inputs).1 = .ok sources) :
    (expandInputs environment (disk.without absent) logger inputs).1 =
      .ok (sources.filter (SourceInput.isKept disk absent)) :=
  expandFrom_without lacks wellNamed expanded

/-! ## Reading -/

/-- What is read is what was read before, unless the file is absent or could not be opened: then it
cannot be opened. -/
theorem readText_without (lacks : disk.Lacks absent) (path : Path) :
    readText (disk.without absent) path = readText disk path ∨
      (∃ fault, readText (disk.without absent) path = .error (.file fault)) ∧
        (absent (disk.resolve path) = true ∨
          ∃ fault, readText disk path = .error (.file fault)) := by
  rw [readText, readText, Disk.read, Disk.read]
  rcases lacks.locate_without path with leads | ⟨leads, led⟩
  · rw [leads]
    cases located : disk.locate path with
    | error problem => exact Or.inl rfl
    | ok place =>
        obtain rfl := Disk.resolve_of_locate located
        simp only [lacks.get?_without]
        by_cases gone : absent (disk.resolve path) = true
        · rw [if_pos gone]
          exact Or.inr ⟨⟨_, rfl⟩, Or.inl gone⟩
        · rw [if_neg gone]
          left
          cases disk.tree.get? (disk.resolve path) with
          | none => rfl
          | some entry => cases entry <;> rfl
  · rw [leads, led]
    exact Or.inr ⟨⟨_, rfl⟩, Or.inr ⟨_, rfl⟩⟩

variable {platform : Platform} {source : SourceInput}

/-- A source that is kept reads as before, or could not and cannot be opened. -/
theorem readText_of_isKept
    (lacks : disk.Lacks absent) (kept : source.isKept disk absent = true) :
    readText (disk.without absent) source.file = readText disk source.file ∨
      (∃ fault, readText (disk.without absent) source.file = .error fault) ∧
        ∃ fault, readText disk source.file = .error fault := by
  rw [SourceInput.isKept, Bool.not_eq_true'] at kept
  rcases readText_without lacks source.file with same | ⟨⟨fault, now⟩, gone | ⟨before, was⟩⟩
  · exact Or.inl same
  · rw [kept] at gone
    cases gone
  · exact Or.inr ⟨⟨_, now⟩, _, was⟩

theorem parse?_without
    (lacks : disk.Lacks absent) (kept : source.isKept disk absent = true) :
    source.parse? platform (disk.without absent) = source.parse? platform disk := by
  rw [SourceInput.parse?, SourceInput.parse?]
  rcases readText_of_isKept lacks kept with same | ⟨⟨_, now⟩, _, was⟩
  · rw [same]
  · rw [now, was]

theorem decided_without
    (lacks : disk.Lacks absent) (kept : source.isKept disk absent = true)
    (decided : source.Decided platform disk) :
    source.Decided platform (disk.without absent) := by
  intro text reads
  rcases readText_of_isKept lacks kept with same | ⟨⟨_, now⟩, _⟩
  · exact decided text (same.symm.trans reads)
  · rw [now] at reads
    cases reads

theorem readmeOf_without
    (lacks : disk.Lacks absent) {options : Options} {readme : String}
    {notes : List (Level × String)}
    (readable : readmeOf options disk = .ok (readme, notes)) :
    ∃ other otherNotes, readmeOf options (disk.without absent) = .ok (other, otherNotes) := by
  rw [readmeOf] at readable ⊢
  split at readable
  · rename_i unset
    exact ⟨"", [], if_pos unset⟩
  · rename_i set
    rw [if_neg set]
    split at readable
    · cases readable
    · rename_i named
      rw [if_neg named]
      rcases readText_without lacks (Path.ofString (options.textOf .readme)) with
        same | ⟨⟨fault, now⟩, _⟩
      · rw [same]
        exact ⟨readme, notes, readable⟩
      · rw [now]
        exact ⟨_, _, rfl⟩

/-- The modules are the same where only sources are absent that are none. -/
theorem moduleTrees_without
    (lacks : disk.Lacks absent) (options : Options) {sources : List SourceInput}
    (bad : ∀ source ∈ sources, absent (disk.resolve source.file) = true →
      source.parse? platform disk = none) :
    moduleTrees platform options (disk.without absent)
        (sources.filter (SourceInput.isKept disk absent)) =
      moduleTrees platform options disk sources := by
  induction sources with
  | nil => rfl
  | cons source sources inductionHypothesis =>
      obtain ⟨first, rest⟩ := List.forall_mem_cons.mp bad
      have restTrees := inductionHypothesis rest
      rw [moduleTrees, moduleTrees] at restTrees ⊢
      rw [List.filter_cons]
      split
      · rename_i kept
        rw [List.filterMap_cons, List.filterMap_cons, parse?_without lacks kept, restTrees]
      · rename_i gone
        rw [SourceInput.isKept, Bool.not_eq_true', Bool.not_eq_false] at gone
        rw [List.filterMap_cons, first gone, restTrees]
        rfl

end ApiDocs.Convert
