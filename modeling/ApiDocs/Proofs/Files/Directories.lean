import ApiDocs.Proofs.Files.Changes
import Mathlib.Data.List.Induction

/-!
# Making directories

A directory is made together with those that are missing on the way to it.  That cannot fail where
no file stands on the way and no name is too long, and it changes nothing but that directories
stand where nothing did.
-/

namespace ApiDocs.Disk

variable {disk before middle after : Disk} {place above start parts : List String}

/-! ## What changes -/

/-- What stands at a place: a directory or a file with its content. -/
def standsAt? (disk : Disk) (place : List String) : Option (Option (List UInt8)) :=
  disk.tree.standsAt? place

theorem standsAt?_eq_none_iff : disk.standsAt? place = none ↔ disk.tree.get? place = none :=
  Option.map_eq_none_iff

/-- Two file systems differ in nothing but what is new on the way to a place. -/
structure MakesWay (place : List String) (before after : Disk) : Prop where
  workingDirectory : after.workingDirectory = before.workingDirectory
  stands : ∀ other, (other <+: place → before.standsAt? other ≠ none) →
    after.standsAt? other = before.standsAt? other

namespace MakesWay

theorem refl (disk : Disk) : MakesWay place disk disk := ⟨rfl, fun _ _ => rfl⟩

theorem trans (first : MakesWay place before middle) (second : MakesWay place middle after) :
    MakesWay place before after where
  workingDirectory := second.workingDirectory.trans first.workingDirectory
  stands := by
    intro other old
    have kept := first.stands other old
    refine (second.stands other fun onTheWay => ?_).trans kept
    rw [kept]
    exact old onTheWay

theorem mono (made : MakesWay above before after) (onTheWay : above <+: place) :
    MakesWay place before after :=
  ⟨made.workingDirectory, fun other old => made.stands other fun isAbove =>
    old (isAbove.trans onTheWay)⟩

end MakesWay

section Changes

variable (named : ∀ part ∈ place, part ≠ "..")
include named

theorem eq_of_locate_pathOf {found : List String}
    (leads : disk.locate (pathOf place) = .ok found) : found = place := by
  have leadsTo := walk_eq_ok leads
  rw [leadsTo]
  exact foldl_step_of_ne named []

/-- A directory that is made stands where nothing stood, and nothing stands in it. -/
theorem makeDirectory_pathOf (made : disk.makeDirectory (pathOf place) = .ok after) :
    after.tree.get? place = some (.directory []) ∧ MakesWay place disk after := by
  rw [makeDirectory] at made
  split at made
  · cases made
  · rename_i found leads
    obtain rfl := eq_of_locate_pathOf named leads
    split at made
    · cases made
    · rename_i absent
      obtain rfl := Except.ok.inj made
      rcases List.eq_nil_or_concat found with rfl | ⟨parts, name, split⟩
      · cases absent
      · rw [List.concat_eq_append] at split
        subst split
        obtain ⟨reached, entries, aboveLeads, stands, _⟩ := walk_concat leads
        have aboveNamed : ∀ part ∈ parts, part ≠ ".." :=
          fun part member => named part (List.mem_append_left [name] member)
        obtain rfl := eq_of_locate_pathOf aboveNamed aboveLeads
        have isMade : (disk.put (reached ++ [name]) (some (.directory []))).tree.get?
            (reached ++ [name]) = some (.directory []) :=
          Entry.get?_put stands name (.directory [])
        refine ⟨isMade, rfl, fun other old => ?_⟩
        by_cases below : reached ++ [name] <+: other
        · -- nothing stood in the new directory before, and nothing stands in it now
          obtain ⟨rest, rfl⟩ := below
          cases rest with
          | nil =>
              rw [List.append_nil] at old
              exact absurd (standsAt?_eq_none_iff.mpr absent) (old (List.prefix_refl _))
          | cons first others =>
              rw [standsAt?_eq_none_iff.mpr, standsAt?_eq_none_iff.mpr]
              · rw [Entry.get?_append, absent]
                rfl
              · rw [Entry.get?_append, isMade]
                rfl
        · exact Entry.standsAt?_put_of_not_prefix below disk.tree _

theorem ensureDirectory_pathOf {mayExist : Bool}
    (ensured : disk.ensureDirectory (pathOf place) mayExist = .ok after) :
    MakesWay place disk after := by
  rw [ensureDirectory] at ensured
  split at ensured
  · rename_i made done
    obtain rfl := Except.ok.inj ensured
    exact (makeDirectory_pathOf named done).2
  · split at ensured
    · obtain rfl := Except.ok.inj ensured
      exact .refl disk
    · cases ensured

end Changes

theorem makeDirectoriesFrom_pathOf {mayExist : Bool} {levels : Nat}
    (named : ∀ part ∈ place, part ≠ "..")
    (made : disk.makeDirectoriesFrom (pathOf place) mayExist levels = .ok after) :
    MakesWay place disk after := by
  induction levels generalizing place mayExist after with
  | zero => exact ensureDirectory_pathOf named made
  | succ levels inductionHypothesis =>
      rw [makeDirectoriesFrom] at made
      split at made
      · rename_i ensured done
        obtain rfl := Except.ok.inj made
        exact ensureDirectory_pathOf named done
      · split at made
        · split at made
          · rename_i middle done
            have isAbove : place.dropLast <+: place := List.dropLast_prefix place
            have aboveNamed : ∀ part ∈ place.dropLast, part ≠ ".." :=
              fun part member => named part (isAbove.subset member)
            exact ((inductionHypothesis aboveNamed done).mono isAbove).trans
              (ensureDirectory_pathOf named made)
          · cases made
        · cases made

/-! ## When a directory can be made -/

theorem walk_append (tree : Entry) (start parts rest : List String) :
    walk tree start (parts ++ rest) =
      (walk tree start parts).bind fun reached => walk tree reached rest := by
  induction parts generalizing start with
  | nil => rfl
  | cons part parts inductionHypothesis =>
      rw [List.cons_append, walk, walk]
      split
      · rfl
      · rfl
      · split
        · rfl
        · exact inductionHypothesis (step start part)

/-- No file stands at a place or on the way to it. -/
def NoFile (disk : Disk) (place : List String) : Prop :=
  ∀ other, other <+: place → ∀ content, disk.tree.get? other ≠ some (.file content)

theorem NoFile.mono (noFile : disk.NoFile place) (onTheWay : above <+: place) :
    disk.NoFile above :=
  fun other isAbove => noFile other (isAbove.trans onTheWay)

/-- A name that an entry can have and that a step can go to. -/
structure IsStep (name : String) : Prop where
  named : name ≠ ".."
  short : name.utf8ByteSize ≤ longestName

section Walks

variable {tree : Entry} (steps : ∀ part ∈ parts, IsStep part)
include steps

/-- A place with a directory can be reached. -/
theorem walk_of_directory {entries : List (String × Entry)}
    (stands : tree.get? (start ++ parts) = some (.directory entries)) :
    walk tree start parts = .ok (start ++ parts) := by
  induction parts generalizing start with
  | nil => rw [walk, List.append_nil]
  | cons part parts inductionHypothesis =>
      have isStep := steps part List.mem_cons_self
      have stepped : step start part = start ++ [part] := if_neg isStep.named
      have whole : start ++ part :: parts = start ++ [part] ++ parts := by simp
      have further := inductionHypothesis
        (fun other member => steps other (List.mem_cons_of_mem part member)) (whole ▸ stands)
      rw [Entry.get?_append, Option.bind_eq_some_iff] at stands
      obtain ⟨reached, found, below⟩ := stands
      cases reached with
      | file content => cases below
      | directory others =>
          rw [walk, found]
          simp only
          rw [if_neg (Nat.not_lt.mpr isStep.short), stepped, further, whole]

/-- Where something is missing on the way, and no file stands there, a place is not found. -/
theorem walk_of_missing (name : String)
    (missing : tree.get? (start ++ parts) = none)
    (noFile : ∀ above, above <+: start ++ parts →
      ∀ content, tree.get? above ≠ some (.file content)) :
    walk tree start (parts ++ [name]) = .error .notFound := by
  induction parts generalizing start with
  | nil =>
      rw [List.append_nil] at missing
      rw [List.nil_append, walk, missing]
  | cons part parts inductionHypothesis =>
      have isStep := steps part List.mem_cons_self
      have stepped : step start part = start ++ [part] := if_neg isStep.named
      have whole : start ++ part :: parts = start ++ [part] ++ parts := by simp
      rw [whole] at missing noFile
      have further := inductionHypothesis
        (fun other member => steps other (List.mem_cons_of_mem part member)) missing noFile
      rw [List.cons_append, walk]
      cases found : tree.get? start with
      | none => rfl
      | some reached =>
          cases reached with
          | file content =>
              refine absurd found (noFile start ?_ content)
              rw [List.append_assoc]
              exact List.prefix_append start _
          | directory others =>
              simp only
              rw [if_neg (Nat.not_lt.mpr isStep.short), stepped, further]

end Walks

section Below

variable {name : String} (steps : ∀ part ∈ above ++ [name], IsStep part)
include steps

/-- In a directory where nothing stands, an empty directory is made. -/
theorem ensureDirectory_of_absent {entries : List (String × Entry)} (mayExist : Bool)
    (stands : disk.tree.get? above = some (.directory entries))
    (absent : disk.tree.get? (above ++ [name]) = none) :
    ∃ after, disk.ensureDirectory (pathOf (above ++ [name])) mayExist = .ok after ∧
      after.tree.get? (above ++ [name]) = some (.directory []) := by
  have named : ∀ part ∈ above ++ [name], part ≠ ".." :=
    fun part member => (steps part member).named
  have aboveSteps : ∀ part ∈ above, IsStep part :=
    fun part member => steps part (List.mem_append_left [name] member)
  have isStep := steps name (List.mem_append_right above List.mem_cons_self)
  have reached : walk disk.tree [] above = .ok above := walk_of_directory aboveSteps stands
  have walked : walk disk.tree [] (above ++ [name]) = .ok (above ++ [name]) := by
    rw [walk_append, reached, Except.bind, walk, stands]
    simp only
    rw [if_neg (Nat.not_lt.mpr isStep.short), walk, step, if_neg isStep.named]
  have leads : disk.locate (pathOf (above ++ [name])) = .ok (above ++ [name]) := walked
  obtain ⟨after, made⟩ : ∃ after, disk.makeDirectory (pathOf (above ++ [name])) = .ok after := by
    rw [makeDirectory, leads]
    simp only
    rw [absent]
    exact ⟨_, rfl⟩
  exact ⟨after, by rw [ensureDirectory, made], (makeDirectory_pathOf named made).1⟩

theorem ensureDirectory_of_missing (mayExist : Bool)
    (missing : disk.tree.get? above = none) (noFile : disk.NoFile above) :
    ∃ fault, fault.problem = .notFound ∧
      disk.ensureDirectory (pathOf (above ++ [name])) mayExist = .error fault := by
  have aboveSteps : ∀ part ∈ above, IsStep part :=
    fun part member => steps part (List.mem_append_left [name] member)
  have walked : walk disk.tree [] (above ++ [name]) = .error .notFound :=
    walk_of_missing aboveSteps name missing noFile
  have leads : disk.locate (pathOf (above ++ [name])) = .error .notFound := walked
  refine ⟨⟨.notFound, (pathOf (above ++ [name])).text⟩, rfl, ?_⟩
  rw [ensureDirectory, makeDirectory, leads]
  cases mayExist <;> rfl

end Below

theorem makeDirectoriesFrom_of_ensured {path : Path} {mayExist : Bool} {levels : Nat}
    (ensured : disk.ensureDirectory path mayExist = .ok after) :
    disk.makeDirectoriesFrom path mayExist levels = .ok after := by
  cases levels with
  | zero => exact ensured
  | succ levels => rw [makeDirectoriesFrom, ensured]

/-- Once the directories above it have been made, a directory is made where nothing stood. -/
theorem makeDirectoriesFrom_of_above
    {name : String} {entries : List (String × Entry)} {levels : Nat} (mayExist : Bool)
    (steps : ∀ part ∈ above ++ [name], IsStep part)
    (missing : disk.tree.get? above = none) (noFile : disk.NoFile above)
    (aboveMade : disk.makeDirectoriesFrom (pathOf above) true levels = .ok middle)
    (stands : middle.tree.get? above = some (.directory entries)) :
    ∃ after,
      disk.makeDirectoriesFrom (pathOf (above ++ [name])) mayExist (levels + 1) = .ok after ∧
        after.tree.get? (above ++ [name]) = some (.directory []) := by
  obtain ⟨fault, notFound, failed⟩ := ensureDirectory_of_missing steps mayExist missing noFile
  have aboveNamed : ∀ part ∈ above, part ≠ ".." :=
    fun part member => (steps part (List.mem_append_left [name] member)).named
  have absent : disk.tree.get? (above ++ [name]) = none := by
    rw [Entry.get?_append, missing]
    rfl
  have stillAbsent : middle.tree.get? (above ++ [name]) = none := by
    have kept := (makeDirectoriesFrom_pathOf aboveNamed aboveMade).stands (above ++ [name])
      fun below => absurd below.length_le (by simp)
    rw [standsAt?_eq_none_iff.mpr absent] at kept
    exact standsAt?_eq_none_iff.mp kept
  have parent : (pathOf (above ++ [name])).parent = pathOf above := by
    rw [Path.parent, pathOf, List.dropLast_concat]
    rfl
  obtain ⟨after, ensured, isMade⟩ := ensureDirectory_of_absent steps mayExist stands stillAbsent
  refine ⟨after, ?_, isMade⟩
  rw [makeDirectoriesFrom, failed]
  simp only
  rw [if_pos notFound, parent, aboveMade]
  exact ensured

/-- Where nothing stands, no file stands on the way and no name is too long, an empty directory is
made. -/
theorem makeDirectoriesFrom_of_absent {mayExist : Bool} {levels : Nat}
    (steps : ∀ part ∈ place, IsStep part) (noFile : disk.NoFile place)
    (enough : place.length ≤ levels) (absent : disk.tree.get? place = none) :
    ∃ after, disk.makeDirectoriesFrom (pathOf place) mayExist levels = .ok after ∧
      after.tree.get? place = some (.directory []) := by
  induction place using List.reverseRecOn generalizing mayExist levels with
  | nil => cases absent
  | append_singleton above name inductionHypothesis =>
      have isAbove : above <+: above ++ [name] := List.prefix_append above [name]
      have aboveNoFile : disk.NoFile above := noFile.mono isAbove
      rcases aboveStands : disk.tree.get? above with _ | (content | entries)
      · rw [List.length_append, List.length_singleton] at enough
        obtain ⟨fewer, rfl⟩ : ∃ fewer, levels = fewer + 1 := ⟨levels - 1, by omega⟩
        obtain ⟨middle, aboveMade, middleStands⟩ := inductionHypothesis
          (fun part member => steps part (List.mem_append_left [name] member)) aboveNoFile
          (Nat.le_of_succ_le_succ enough) aboveStands
        exact makeDirectoriesFrom_of_above mayExist steps aboveStands aboveNoFile aboveMade
          middleStands
      · exact absurd aboveStands (noFile above isAbove content)
      · obtain ⟨after, ensured, isMade⟩ :=
          ensureDirectory_of_absent steps mayExist aboveStands absent
        exact ⟨after, makeDirectoriesFrom_of_ensured ensured, isMade⟩

end ApiDocs.Disk
