import ApiDocs.Files.Environment
import ApiDocs.Proofs.Files.Directories
import ApiDocs.Proofs.Site.Addresses

/-!
# Paths from the working directory

A path written out from the working directory leads where the path leads.  Its text is read back as
it was written, and no home directory is put into it.
-/

namespace ApiDocs

namespace Path

/-! ## Texts of paths -/

theorem isPart_of_mem_components {text part : String} (member : part ∈ components text) :
    IsPart part := by
  obtain ⟨inPieces, counts⟩ := List.mem_filter.mp member
  rw [Bool.and_eq_true, decide_eq_true_iff, decide_eq_true_iff] at counts
  refine ⟨counts.1, counts.2, ?_⟩
  obtain ⟨characters, split, rfl⟩ := List.mem_map.mp inPieces
  rw [String.toList_ofList]
  exact Text.notMem_of_mem_splitOn split

theorem rootOf_cases (text : List Char) :
    rootOf text = "" ∨ rootOf text = "/" ∨ rootOf text = "//" := by
  unfold rootOf
  split <;> simp

theorem rootOf_slash {text : String} (relative : Relative text) :
    rootOf ("/" ++ text).toList = "/" ∧ rootOf ("//" ++ text).toList = "//" := by
  rw [Relative] at relative
  rw [String.toList_append, String.toList_append]
  cases characters : text.toList with
  | nil => exact ⟨rfl, rfl⟩
  | cons first rest =>
      rw [characters] at relative
      have other : first ≠ '/' := fun same => relative (congrArg some same)
      constructor <;> simp [rootOf, other]

/-- A path with a root is read back from its text. -/
theorem ofString_text {path : Path} (areParts : ∀ part ∈ path.parts, IsPart part)
    (rooted : path.root = "/" ∨ path.root = "//") : ofString path.text = path := by
  obtain ⟨root, parts⟩ := path
  have bodyComponents := components_intercalate areParts
  obtain ⟨one, two⟩ := rootOf_slash (relative_intercalate areParts)
  rcases rooted with rfl | rfl
  · have components := components_append_slash "" ("/".intercalate parts)
    rw [bodyComponents, String.empty_append, show Path.components "" = [] by decide] at components
    have whole : text ⟨"/", parts⟩ = "/" ++ "/".intercalate parts := rfl
    rw [whole, ofString, one, components, List.nil_append]
  · have components := components_append_slash "/" ("/".intercalate parts)
    rw [bodyComponents, show Path.components "/" = [] by decide] at components
    have whole : text ⟨"//", parts⟩ = "//" ++ "/".intercalate parts := rfl
    rw [whole, ofString, two]
    exact congrArg (Path.mk "//") components

end Path

theorem Environment.expandHome?_of_absolute (environment : Environment) {path : Path}
    (absolute : path.isAbsolute = true) : environment.expandHome? path = some path := by
  rw [Path.isAbsolute, decide_eq_true_iff] at absolute
  unfold expandHome?
  split
  · rename_i noRoot _
    exact absurd noRoot absolute
  · rfl

namespace Disk

/-- A path, written out from the working directory. -/
def anchor (disk : Disk) (path : Path) : Path := (pathOf disk.workingDirectory).join path

/-- The working directory is there, and the names on the way to it are names. -/
structure Stands (disk : Disk) : Prop where
  names : ∀ name ∈ disk.workingDirectory, IsName name
  leads : walk disk.tree [] disk.workingDirectory = .ok disk.workingDirectory
  isThere : ∃ entries, disk.tree.get? disk.workingDirectory = some (.directory entries)

variable {disk : Disk} {path base : Path}

theorem anchor_of_absolute (absolute : path.isAbsolute = true) : disk.anchor path = path :=
  if_pos absolute

theorem anchor_of_relative (relative : ¬ path.isAbsolute = true) :
    disk.anchor path = pathOf (disk.workingDirectory ++ path.parts) :=
  if_neg relative

theorem isAbsolute_anchor (disk : Disk) (path : Path) : (disk.anchor path).isAbsolute = true := by
  by_cases absolute : path.isAbsolute = true
  · rw [anchor_of_absolute absolute]
    exact absolute
  · rw [anchor_of_relative absolute]
    rfl

theorem resolve_anchor (stands : disk.Stands) (path : Path) :
    disk.resolve (disk.anchor path) = disk.resolve path := by
  by_cases absolute : path.isAbsolute = true
  · rw [anchor_of_absolute absolute]
  · have named : ∀ name ∈ disk.workingDirectory, name ≠ ".." := fun name member =>
      (stands.names name member).ne_dots
    rw [anchor_of_relative absolute, resolve, resolve, if_neg absolute, pathOf,
      if_pos (by rfl), List.foldl_append, foldl_step_of_ne named, List.nil_append]

theorem locate_anchor (stands : disk.Stands) (path : Path) :
    disk.locate (disk.anchor path) = disk.locate path := by
  by_cases absolute : path.isAbsolute = true
  · rw [anchor_of_absolute absolute]
  · rw [anchor_of_relative absolute, locate, locate, if_neg absolute, pathOf, if_pos (by rfl),
      walk_append, stands.leads]
    rfl

/-- What stands below a path stands below the written out path in the same way. -/
theorem relativeTo_anchor (sameRoot : path.root = base.root) :
    (disk.anchor path).relativeTo (disk.anchor base) = path.relativeTo base := by
  have together : path.isAbsolute = base.isAbsolute := by
    rw [Path.isAbsolute, Path.isAbsolute, sameRoot]
  by_cases absolute : path.isAbsolute = true
  · rw [anchor_of_absolute absolute, anchor_of_absolute (together ▸ absolute)]
  · rw [anchor_of_relative absolute, anchor_of_relative (together ▸ absolute), Path.relativeTo,
      Path.relativeTo, pathOf, pathOf, List.length_append, List.drop_length_add_append]

/-- The text of a written out path is read as that path, and no home directory is put in. -/
theorem ofString_text_anchor (stands : disk.Stands) (text : String) :
    Path.ofString (disk.anchor (Path.ofString text)).text = disk.anchor (Path.ofString text) := by
  have areParts : ∀ part ∈ Path.components text, IsPart part := fun _ =>
    Path.isPart_of_mem_components
  by_cases absolute : (Path.ofString text).isAbsolute = true
  · rw [anchor_of_absolute absolute]
    refine Path.ofString_text areParts ((Path.rootOf_cases _).resolve_left ?_)
    rw [Path.isAbsolute, decide_eq_true_iff] at absolute
    exact absolute
  · rw [anchor_of_relative absolute]
    refine Path.ofString_text (List.forall_mem_append.mpr ⟨?_, areParts⟩) (Or.inl rfl)
    exact fun name member => (stands.names name member).isPart

theorem expandHome?_anchor (stands : disk.Stands) (environment : Environment) (text : String) :
    environment.expandHome? (Path.ofString (disk.anchor (Path.ofString text)).text) =
      some (disk.anchor (Path.ofString text)) := by
  rw [ofString_text_anchor stands]
  exact environment.expandHome?_of_absolute (isAbsolute_anchor disk _)

end Disk

end ApiDocs
