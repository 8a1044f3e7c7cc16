import ApiDocs.Proofs.Convert.Candidates
import ApiDocs.Proofs.Site.Addresses
import Mathlib

/-!
# The sources of inputs

The sources that inputs expand to are what the inputs contribute, one after the other, and of
several sources at one place the first.  What is neither a directory nor a source file is reported.
A name that no entry can have ends the expansion instead.
-/

namespace ApiDocs.Convert

/-! ## Firsts -/

section Firsts

variable {Item Key : Type} [DecidableEq Key]

/-- What holds of a list where it holds of all that is left of its tail. -/
theorem filterInduction
    {motive : List Item → Prop}
    (nil : motive [])
    (cons : ∀ head tail, (∀ keep : Item → Bool, motive (tail.filter keep)) → motive (head :: tail))
    (items : List Item) :
    motive items := by
  induction length : items.length using Nat.strongRecOn generalizing items with
  | ind bound inductionHypothesis =>
      cases items with
      | nil => exact nil
      | cons head tail =>
          -- whatever is kept of the tail is shorter than the list
          refine cons head tail fun keep => inductionHypothesis _ ?_ _ rfl
          have shorter := List.length_filter_le keep tail
          rw [List.length_cons] at length
          omega

variable (key : Item → Key)

/-- The first item of each key. -/
def firsts (items : List Item) : List Item :=
  items.eraseDupsBy fun later first => key later == key first

@[simp] theorem firsts_nil : firsts key [] = [] := List.eraseDupsBy_nil

@[simp] theorem firsts_cons (head : Item) (tail : List Item) :
    firsts key (head :: tail) = head :: firsts key (tail.filter fun item => key item ≠ key head) := by
  rw [firsts, firsts, List.eraseDupsBy_cons]
  simp

theorem firsts_sublist (items : List Item) : (firsts key items).Sublist items := by
  induction items using filterInduction with
  | nil => simp
  | cons head tail inductionHypothesis =>
      rw [firsts_cons]
      exact ((inductionHypothesis _).trans List.filter_sublist).cons_cons head

theorem firsts_nodup (items : List Item) : ((firsts key items).map key).Nodup := by
  induction items using filterInduction with
  | nil => simp
  | cons head tail inductionHypothesis =>
      rw [firsts_cons, List.map_cons, List.nodup_cons]
      refine ⟨fun again => ?_, inductionHypothesis _⟩
      obtain ⟨item, member, same⟩ := List.mem_map.mp again
      have kept := (List.mem_filter.mp ((firsts_sublist key _).subset member)).2
      exact of_decide_eq_true kept same

theorem exists_firsts_of_mem {items : List Item} {item : Item} (member : item ∈ items) :
    ∃ first ∈ firsts key items, key first = key item := by
  induction items using filterInduction with
  | nil => cases member
  | cons head tail inductionHypothesis =>
      rw [firsts_cons]
      by_cases same : key item = key head
      · exact ⟨head, List.mem_cons_self, same.symm⟩
      · have inTail : item ∈ tail := by
          rcases List.mem_cons.mp member with rfl | inTail
          · exact absurd rfl same
          · exact inTail
        have kept : item ∈ tail.filter fun item => key item ≠ key head := by simp [inTail, same]
        obtain ⟨first, found, sameKey⟩ := inductionHypothesis _ kept
        exact ⟨first, List.mem_cons_of_mem head found, sameKey⟩

end Firsts

variable {environment : Environment} {disk : Disk} {inputs : List String}
variable {sources : List SourceInput}

/-- The place of a source. -/
def SourceInput.place (disk : Disk) (source : SourceInput) : List String :=
  disk.resolve source.file

/-- Sources are added as far as their places are new, and one of each place. -/
theorem foldl_add_sources (found : Found) (added : List SourceInput) :
    (added.foldl (Found.add disk) found).sources =
      found.sources ++
        firsts (SourceInput.place disk)
          (added.filter fun source => source.place disk ∉ found.places) := by
  induction added generalizing found with
  | nil => simp
  | cons source added inductionHypothesis =>
      have isPlace : disk.resolve source.file = source.place disk := rfl
      rw [List.foldl_cons, inductionHypothesis, Found.add, isPlace]
      -- a new place is known afterwards, so later sources at it are dropped
      by_cases old : source.place disk ∈ found.places
      · simp [old]
      · simp [old]

/-! ## Expansion -/

/-- The path of an input, with its home directory put in, contributes sources. -/
def InputContributes (environment : Environment) (disk : Disk) (input : String)
    (sources : List SourceInput) : Prop :=
  ∃ path ∈ environment.expandHome? (Path.ofString input), Contributes disk path sources

/-- An input is a directory or a source file. -/
def IsAccepted (environment : Environment) (disk : Disk) (input : String) : Prop :=
  ∃ path ∈ environment.expandHome? (Path.ofString input), IsInput disk path

instance (environment : Environment) (disk : Disk) (input : String) :
    Decidable (IsAccepted environment disk input) :=
  inferInstanceAs (Decidable (∃ path ∈ _, _))

/-- The errors for inputs that are none. -/
def rejections (environment : Environment) (disk : Disk) (inputs : List String) :
    List (Level × String) :=
  (inputs.filter fun input => ¬ IsAccepted environment disk input).map fun input =>
    (.error, s!"Input file {input} is not a Python file or directory.")

theorem exists_contributions
    (distinct : disk.tree.DistinctlyNamed)
    (usable : ∀ input ∈ inputs, IsUsable environment disk input)
    (found : Found) (logger : Logger) :
    ∃ contributions, List.Forall₂ (InputContributes environment disk) inputs contributions ∧
      (expandFrom environment disk found logger inputs).1 =
        .ok (contributions.flatten.foldl (Found.add disk) found).sources := by
  induction inputs generalizing found with
  | nil => exact ⟨[], .nil, rfl⟩
  | cons input inputs inductionHypothesis =>
      obtain ⟨first, rest⟩ := List.forall_mem_cons.mp usable
      obtain ⟨path, sources?, home, finds⟩ := isUsable_iff.mp first
      obtain ⟨contributions, contribute, expanded⟩ :=
        inductionHypothesis rest ((sources?.getD []).foldl (Found.add disk) found)
      refine ⟨sources?.getD [] :: contributions, .cons ⟨path, home, ?_⟩ contribute, ?_⟩
      · exact (contributes_of_candidates? distinct finds).1
      · rw [expandFrom_cons home finds, expanded, List.flatten_cons, List.foldl_append]

theorem isRejected_iff
    (distinct : disk.tree.DistinctlyNamed) {input : String}
    (usable : IsUsable environment disk input) :
    isRejected environment disk input = true ↔ ¬ IsAccepted environment disk input := by
  obtain ⟨path, sources?, home, finds⟩ := isUsable_iff.mp usable
  have accepted : IsAccepted environment disk input ↔ IsInput disk path := by
    rw [IsAccepted, home]
    simp
  rw [accepted, ← (contributes_of_candidates? distinct finds).2, isRejected]
  simp only [home, finds]
  cases sources? <;> simp

theorem inputMessages_eq_rejections
    (distinct : disk.tree.DistinctlyNamed)
    (usable : ∀ input ∈ inputs, IsUsable environment disk input) :
    inputMessages environment disk inputs = rejections environment disk inputs := by
  rw [inputMessages, rejections]
  congr 1
  apply List.filter_congr
  intro input member
  rw [Bool.eq_iff_iff, decide_eq_true_iff]
  exact isRejected_iff distinct (usable input member)

/-- What inputs expand to: what they contribute, in their order, each place where it is met first.
No place is left out, and what is no input is reported. -/
structure ListsOnce (environment : Environment) (disk : Disk) (inputs : List String)
    (before : Logger) (contributions : List (List SourceInput)) (sources : List SourceInput)
    (after : Logger) : Prop where
  contribute : List.Forall₂ (InputContributes environment disk) inputs contributions
  firsts : sources = firsts (SourceInput.place disk) contributions.flatten
  distinct : (sources.map (SourceInput.place disk)).Nodup
  complete : ∀ source ∈ contributions.flatten,
    ∃ kept ∈ sources, kept.place disk = source.place disk
  reported : after = before.logAll (rejections environment disk inputs)

theorem listsOnce_of_expandInputs
    (distinct : disk.tree.DistinctlyNamed) {logger : Logger}
    (expanded : (expandInputs environment disk logger inputs).1 = .ok sources) :
    ∃ contributions, ListsOnce environment disk inputs logger contributions sources
      (expandInputs environment disk logger inputs).2 := by
  have usable : ∀ input ∈ inputs, IsUsable environment disk input :=
    (exists_expandFrom_iff _ logger).mp ⟨sources, expanded⟩
  obtain ⟨contributions, contribute, found⟩ :=
    exists_contributions distinct usable { sources := [], places := [] } logger
  have isFirsts : sources = firsts (SourceInput.place disk) contributions.flatten := by
    have isFound := Except.ok.inj (expanded.symm.trans found)
    have allNew : (contributions.flatten.filter fun source => source.place disk ∉ []) =
        contributions.flatten := List.filter_eq_self.mpr (by simp)
    rw [isFound, foldl_add_sources, List.nil_append, allNew]
  refine ⟨contributions, contribute, isFirsts, ?_, ?_, ?_⟩
  · rw [isFirsts]
    exact firsts_nodup _ _
  · rw [isFirsts]
    intro source member
    exact exists_firsts_of_mem _ member
  · have logged : (expandInputs environment disk logger inputs).2 =
        logger.logAll (inputMessages environment disk inputs) := expandFrom_snd expanded
    rw [logged, inputMessages_eq_rejections distinct usable]

/-- Inputs expand unless one of them is in an unknown home directory or asks for a name that is too
long; and then each source is listed once, where it is met first. -/
theorem expandInputs_lists_once
    (distinct : disk.tree.DistinctlyNamed)
    (environment : Environment) (logger : Logger) (inputs : List String) :
    let expansion := expandInputs environment disk logger inputs
    ((∃ sources, expansion.1 = .ok sources) ↔
        ∀ input ∈ inputs, IsUsable environment disk input) ∧
      ∀ sources, expansion.1 = .ok sources →
        ∃ contributions,
          ListsOnce environment disk inputs logger contributions sources expansion.2 :=
  ⟨exists_expandFrom_iff _ logger, fun _ expanded => listsOnce_of_expandInputs distinct expanded⟩

/-! ## Overlapping inputs -/

/-- A package with a hidden directory and a cache, beside a file that is no source. -/
def packageDisk : Disk :=
  { tree := .directory [("work", .directory
      [("pkg", .directory
        [("z.py", .file []), ("sub", .directory [("n.py", .file [])]),
          (".hid", .directory [("h.py", .file [])]),
          ("__pycache__", .directory [("c.py", .file [])]), ("a.py", .file [])]),
        ("readme.md", .file [])])]
    workingDirectory := ["work"] }

/-- A source that is found from several inputs belongs to the first of them, and one that is hidden
from an input may be found from another. -/
theorem expandInputs_lists_once_overlapping :
    let environment : Environment := { bindings := [("HOME", "/work")] }
    let inputs := ["pkg/sub", "missing", "pkg", "readme.md", "pkg/../pkg/a.py", "~/pkg/.hid"]
    let package : Path := ⟨"", ["pkg"]⟩
    packageDisk.tree.DistinctlyNamed ∧
      ∃ contributions after,
        ListsOnce environment packageDisk inputs (.new .silent .none) contributions
          [.below (package.child "sub") ["n.py"], .below package ["a.py"], .below package ["z.py"],
            .below ⟨"/", ["work", "pkg", ".hid"]⟩ ["h.py"]] after ∧
          after.errors = 2 := by
  intro environment inputs package
  have distinct : packageDisk.tree.DistinctlyNamed := by decide +kernel
  have expanded : (expandInputs environment packageDisk (.new .silent .none) inputs).1 =
      .ok [.below (package.child "sub") ["n.py"], .below package ["a.py"], .below package ["z.py"],
        .below ⟨"/", ["work", "pkg", ".hid"]⟩ ["h.py"]] := by
    cbv
  obtain ⟨_, lists⟩ :=
    expandInputs_lists_once distinct environment (.new .silent .none) inputs
  obtain ⟨contributions, listsOnce⟩ := lists _ expanded
  refine ⟨distinct, contributions, _, listsOnce, ?_⟩
  rw [listsOnce.reported]
  decide +kernel

/-- A name that is too long for any entry. -/
def overlongInput : String := String.ofList (List.replicate 256 'x')

theorem expandHome?_of_noTilde
    (environment : Environment) {first : String} (rest : List String)
    (noTilde : ¬ first.startsWith "~" = true) :
    environment.expandHome? ⟨"", first :: rest⟩ = some ⟨"", first :: rest⟩ := by
  simp [Environment.expandHome?, noTilde]

theorem expandHome?_overlongInput (environment : Environment) :
    environment.expandHome? (Path.ofString overlongInput) = some ⟨"", [overlongInput]⟩ := by
  have characters : overlongInput.toList = List.replicate 256 'x' := String.toList_ofList
  have isName : IsName overlongInput := by
    refine ⟨by decide +kernel, by decide +kernel, by decide +kernel, ?_⟩
    rw [characters]
    decide
  have noTilde : ¬ overlongInput.startsWith "~" = true := by
    rw [String.startsWith_string_iff, characters]
    decide
  rw [Path.ofString_name isName]
  exact expandHome?_of_noTilde environment [] noTilde

/-- Where home directories are known, too, inputs need not expand. -/
theorem not_expandInputs_always_lists :
    ¬ ∀ (environment : Environment) (disk : Disk) (logger : Logger) (inputs : List String),
      disk.tree.DistinctlyNamed →
      (∀ input ∈ inputs, (environment.expandHome? (Path.ofString input)).isSome = true) →
        ∃ contributions sources after,
          expandInputs environment disk logger inputs = (.ok sources, after) ∧
            ListsOnce environment disk inputs logger contributions sources after := by
  intro listsOnce
  let environment : Environment := .bare
  let disk : Disk := { tree := .directory [("m.py", .file [])], workingDirectory := [] }
  have isPath := expandHome?_overlongInput environment
  have homes : ∀ input ∈ [overlongInput, "m.py"],
      (environment.expandHome? (Path.ofString input)).isSome = true := by
    rw [List.forall_mem_cons, List.forall_mem_singleton, isPath]
    exact ⟨rfl, by decide +kernel⟩
  obtain ⟨_, sources, after, expanded, _⟩ :=
    listsOnce environment disk (.new .silent .none) _ (by decide) homes
  have usable := (exists_expandFrom_iff _ _).mp ⟨sources, congrArg Prod.fst expanded⟩
  obtain ⟨path, home, short⟩ := usable overlongInput List.mem_cons_self
  obtain rfl : path = ⟨"", [overlongInput]⟩ := Option.some.inj (home.symm.trans isPath)
  exact short ⟨[], overlongInput, [], rfl, rfl, by decide +kernel⟩

end ApiDocs.Convert
