import ApiDocs.Proofs.Files.Tree

/-!
# Changes of a file system

Where the places of paths are, and which files an operation leaves alone: making directories
changes no file, writing changes one, and removing changes those below one place.
-/

namespace ApiDocs.Disk

variable {disk before middle after : Disk} {path : Path} {place : List String}

/-! ## Places -/

theorem walk_eq_ok
    {tree : Entry} {parts result : List String}
    (leads : walk tree place parts = .ok result) :
    result = parts.foldl step place := by
  induction parts generalizing place with
  | nil =>
      cases leads
      rfl
  | cons part parts inductionHypothesis =>
      rw [walk] at leads
      split at leads
      · cases leads
      · cases leads
      · by_cases long : part.utf8ByteSize > longestName
        · rw [if_pos long] at leads
          cases leads
        · rw [if_neg long] at leads
          exact inductionHypothesis leads

/-- A path that leads somewhere leads to the place it means. -/
theorem resolve_of_locate
    (leads : disk.locate path = .ok place) :
    disk.resolve path = place :=
  (walk_eq_ok leads).symm

/-- The place of a path depends on the working directory only. -/
theorem resolve_congr
    (same : after.workingDirectory = before.workingDirectory)
    (path : Path) :
    after.resolve path = before.resolve path := by
  rw [resolve, resolve, same]

theorem foldl_step_of_ne
    {parts : List String}
    (named : ∀ part ∈ parts, part ≠ "..")
    (place : List String) :
    parts.foldl step place = place ++ parts := by
  induction parts generalizing place with
  | nil => exact (List.append_nil place).symm
  | cons part parts inductionHypothesis =>
      have further : step place part = place ++ [part] := if_neg (named part List.mem_cons_self)
      rw [List.foldl_cons, further,
        inductionHypothesis fun other member => named other (List.mem_cons_of_mem part member),
        List.append_assoc, List.singleton_append]

theorem resolve_append_parts
    {parts : List String}
    (named : ∀ part ∈ parts, part ≠ "..")
    (disk : Disk) (path : Path) :
    disk.resolve { path with parts := path.parts ++ parts } = disk.resolve path ++ parts := by
  have apart :
      disk.resolve { path with parts := path.parts ++ parts } =
        parts.foldl step (disk.resolve path) :=
    List.foldl_append
  rw [apart, foldl_step_of_ne named]

theorem getLast?_resolve
    {name : String}
    (last : path.parts.getLast? = some name)
    (named : name ≠ "..")
    (disk : Disk) :
    (disk.resolve path).getLast? = some name := by
  obtain ⟨parts, split⟩ := List.getLast?_eq_some_iff.mp last
  rw [resolve, split, List.foldl_append, List.foldl_cons, List.foldl_nil, step, if_neg named,
    List.getLast?_concat]

/-! ## Files that stay -/

/-- The content of the file at a place, if a file stands there. -/
def fileAt? (disk : Disk) (place : List String) : Option (List UInt8) :=
  disk.tree.fileAt? place

theorem fileAt?_of_read
    {content : List UInt8}
    (reads : disk.read path = .ok content) :
    disk.fileAt? (disk.resolve path) = some content := by
  rw [read] at reads
  split at reads
  · cases reads
  · rename_i place leads
    split at reads
    · cases reads
    · cases reads
    · rename_i other found
      obtain rfl : other = content := Except.ok.inj reads
      rw [resolve_of_locate leads]
      exact Entry.fileAt?_eq_some.mpr found

/-- The working directory stays, and so do the files at the given places, those that are
missing there included. -/
structure Keeps (kept : List String → Prop) (before after : Disk) : Prop where
  workingDirectory : after.workingDirectory = before.workingDirectory
  files : ∀ place, kept place → after.fileAt? place = before.fileAt? place

section Keeps

variable {kept : List String → Prop}

theorem Keeps.refl (disk : Disk) : Keeps kept disk disk :=
  ⟨rfl, fun _ _ => rfl⟩

theorem Keeps.trans (first : Keeps kept before middle) (second : Keeps kept middle after) :
    Keeps kept before after :=
  ⟨second.workingDirectory.trans first.workingDirectory,
    fun place held => (second.files place held).trans (first.files place held)⟩

theorem makeDirectory_keeps
    (made : disk.makeDirectory path = .ok after) :
    Keeps kept disk after := by
  rw [makeDirectory] at made
  split at made
  · cases made
  · split at made
    · cases made
    · rename_i place leads absent
      obtain rfl := Except.ok.inj made
      exact ⟨rfl, fun other _ => Entry.fileAt?_put_directory absent other⟩

theorem ensureDirectory_keeps
    {mayExist : Bool}
    (ensured : disk.ensureDirectory path mayExist = .ok after) :
    Keeps kept disk after := by
  rw [ensureDirectory] at ensured
  split at ensured
  · rename_i made done
    obtain rfl := Except.ok.inj ensured
    exact makeDirectory_keeps done
  · split at ensured
    · obtain rfl := Except.ok.inj ensured
      exact Keeps.refl disk
    · cases ensured

theorem makeDirectoriesFrom_keeps
    {mayExist : Bool} {levels : Nat}
    (made : disk.makeDirectoriesFrom path mayExist levels = .ok after) :
    Keeps kept disk after := by
  induction levels generalizing path mayExist after with
  | zero => exact ensureDirectory_keeps made
  | succ levels inductionHypothesis =>
      rw [makeDirectoriesFrom] at made
      split at made
      · rename_i ensured done
        obtain rfl := Except.ok.inj made
        exact ensureDirectory_keeps done
      · split at made
        · split at made
          · rename_i enclosing done
            exact (inductionHypothesis done).trans (ensureDirectory_keeps made)
          · cases made
        · cases made

theorem makeDirectories_keeps
    {mayExist : Bool}
    (made : disk.makeDirectories path mayExist = .ok after) :
    Keeps kept disk after :=
  makeDirectoriesFrom_keeps made

theorem write_keeps
    {content : List UInt8}
    (elsewhere : ¬ kept (disk.resolve path))
    (written : disk.write path content = .ok after) :
    Keeps kept disk after := by
  rw [write] at written
  split at written
  · cases written
  · rename_i target leads
    split at written
    · cases written
    · rename_i noDirectory
      obtain rfl := Except.ok.inj written
      refine ⟨rfl, fun place held => ?_⟩
      have different : place ≠ target := by
        rintro rfl
        rw [resolve_of_locate leads] at elsewhere
        exact elsewhere held
      exact Entry.fileAt?_put_file noDirectory different content

end Keeps

/-! ## Files that are written -/

/-- The last step to a place starts in a directory. -/
theorem walk_concat
    {tree : Entry} {parts result : List String} {name : String}
    (leads : walk tree place (parts ++ [name]) = .ok result) :
    ∃ above entries, walk tree place parts = .ok above ∧
      tree.get? above = some (.directory entries) ∧ result = step above name := by
  induction parts generalizing place with
  | nil =>
      rw [List.nil_append, walk] at leads
      split at leads
      · cases leads
      · cases leads
      · rename_i entries stands
        split at leads
        · cases leads
        · obtain rfl := Except.ok.inj leads
          exact ⟨place, entries, rfl, stands, rfl⟩
  | cons part parts inductionHypothesis =>
      rw [List.cons_append, walk] at leads
      split at leads
      · cases leads
      · cases leads
      · rename_i entries stands
        split at leads
        · cases leads
        · rename_i short
          obtain ⟨above, aboveEntries, aboveLeads, aboveStands, result⟩ := inductionHypothesis leads
          refine ⟨above, aboveEntries, ?_, aboveStands, result⟩
          rw [walk, stands]
          simp only
          rw [if_neg short, aboveLeads]

/-- What is written to a path stands at the place that the path means. -/
theorem fileAt?_write
    {content : List UInt8} {name : String}
    (last : path.parts.getLast? = some name)
    (named : name ≠ "..")
    (written : disk.write path content = .ok after) :
    after.fileAt? (disk.resolve path) = some content := by
  obtain ⟨parts, split⟩ := List.getLast?_eq_some_iff.mp last
  rw [write] at written
  split at written
  · cases written
  · rename_i target leads
    have place := resolve_of_locate leads
    split at written
    · cases written
    · obtain rfl := Except.ok.inj written
      rw [locate, split] at leads
      obtain ⟨above, entries, _, stands, result⟩ := walk_concat leads
      rw [step, if_neg named] at result
      rw [place, result, fileAt?, Entry.fileAt?_eq_some]
      exact Entry.get?_put stands name (.file content)

/-! ## Files that go -/

theorem fileAt?_remove_of_prefix
    {other : List String}
    (inside : place ≠ [])
    (below : place <+: other)
    (disk : Disk) :
    (disk.remove place).fileAt? other = none :=
  Entry.fileAt?_put_none inside below disk.tree

theorem fileAt?_remove_of_not_prefix
    {other : List String}
    (apart : ¬ place <+: other)
    (disk : Disk) :
    (disk.remove place).fileAt? other = disk.fileAt? other :=
  Entry.fileAt?_put_of_not_prefix apart disk.tree none

end ApiDocs.Disk
