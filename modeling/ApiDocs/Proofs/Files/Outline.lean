import ApiDocs.Proofs.Files.Absence

/-!
# Outlines of file systems

The outline of a file system is what is left when all files are empty.  Where paths lead, and what
is listed below a directory, can be told from the outline.
-/

namespace ApiDocs

namespace Entry

mutual

/-- An entry whose files are empty. -/
def outline : Entry → Entry
  | .file _ => .file []
  | .directory entries => .directory (outlines entries)

def outlines : List (String × Entry) → List (String × Entry)
  | [] => []
  | (name, entry) :: rest => (name, outline entry) :: outlines rest

end

theorem lookup_outlines (name : String) (entries : List (String × Entry)) :
    (outlines entries).lookup name = (entries.lookup name).map outline := by
  induction entries with
  | nil => rfl
  | cons pair rest inductionHypothesis =>
      rw [outlines, List.lookup_cons, List.lookup_cons]
      cases name == pair.1 with
      | true => rfl
      | false => exact inductionHypothesis

theorem get?_outline (entry : Entry) (place : List String) :
    entry.outline.get? place = (entry.get? place).map outline := by
  induction place generalizing entry with
  | nil => rfl
  | cons name names inductionHypothesis =>
      cases entry with
      | file content => rfl
      | directory entries =>
          rw [outline, get?, get?, lookup_outlines, Option.map_bind, Option.bind_map]
          exact Option.bind_congr fun found _ => inductionHypothesis found

end Entry

namespace Disk

mutual

theorem below_outline (entry : Entry) :
    (below [] entry.outline).map Prod.fst = (below [] entry).map Prod.fst := by
  match entry with
  | .file content => rfl
  | .directory entries =>
      rw [Entry.outline, below, below]
      exact belowEntries_outlines entries

theorem belowEntries_outlines (entries : List (String × Entry)) :
    (belowEntries [] (Entry.outlines entries)).map Prod.fst =
      (belowEntries [] entries).map Prod.fst := by
  match entries with
  | [] => rfl
  | (name, entry) :: rest =>
      rw [Entry.outlines, places_cons, places_cons, below_outline entry,
        belowEntries_outlines rest]

end

theorem walk_outline (tree : Entry) (place parts : List String) :
    walk tree.outline place parts = walk tree place parts := by
  induction parts generalizing place with
  | nil => rfl
  | cons part parts inductionHypothesis =>
      rw [walk, walk, Entry.get?_outline]
      cases tree.get? place with
      | none => rfl
      | some entry =>
          cases entry with
          | file content => rfl
          | directory entries => simp only [Option.map_some, Entry.outline, inductionHypothesis]

/-- The file system with empty files. -/
def outline (disk : Disk) : Disk := { disk with tree := disk.tree.outline }

theorem locate_outline (disk : Disk) (path : Path) : disk.outline.locate path = disk.locate path :=
  walk_outline disk.tree _ path.parts

end Disk

end ApiDocs
