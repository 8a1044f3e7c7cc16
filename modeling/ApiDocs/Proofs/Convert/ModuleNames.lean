import ApiDocs.Convert.Inputs
import ApiDocs.Convert.Outline
import ApiDocs.Proofs.Text.Joining

/-!
# Names of modules

Below one root two sources have the same module name only where one is a module beside the package
of its name: the parts of a module are read back from its name, and they give the file, up to the
file that initialises a package.
-/

namespace ApiDocs

/-! ## Stems -/

theorem Path.dropLast_append_name {path : Path} (nonempty : path.parts ≠ []) :
    path.parts.dropLast ++ [path.name] = path.parts := by
  rw [name, List.getLast?_eq_some_getLast nonempty, Option.getD_some,
    List.dropLast_concat_getLast nonempty]

theorem Path.suffixStart?_append {stem : List Char} :
    suffixStart? (stem ++ ['.', 'p', 'y']) = if stem = [] then none else some stem.length := by
  have ending : ((stem ++ ['.', 'p', 'y']).reverse.takeWhile (· ≠ '.')).length = 2 := by simp
  have length : (stem ++ ['.', 'p', 'y']).length = stem.length + 3 := by simp
  rw [suffixStart?, ending, length]
  cases stem with
  | nil => rfl
  | cons head tail => simp

/-- A file that has nothing but the ending for a name has no suffix. -/
theorem Path.stem_of_name {path : Path} {stem : String}
    (named : path.name = stem ++ Convert.sourceEnding) :
    path.stem = if stem = "" then Convert.sourceEnding else stem := by
  have characters : path.name.toList = stem.toList ++ ['.', 'p', 'y'] := by
    rw [named, String.toList_append]
    rfl
  rw [Path.stem, characters, suffixStart?_append]
  by_cases nameless : stem = ""
  · rw [if_pos nameless, if_pos (by rw [nameless]; rfl), named, nameless, String.empty_append]
  · have nonempty : stem.toList ≠ [] := fun isEmpty => nameless (String.toList_eq_nil_iff.mp isEmpty)
    rw [if_neg nameless, if_neg nonempty]
    simp

namespace Convert

/-! ## Parts of a name -/

/-- A source whose place below its root is told by its name: no component is empty or holds a dot,
but for the dot of the ending. -/
structure IsPlainSource (file : Path) : Prop where
  relative : file.root = ""
  directories : ∀ part ∈ file.parts.dropLast, part ≠ "" ∧ '.' ∉ part.toList
  ending : ∃ stem : String, '.' ∉ stem.toList ∧ file.name = stem ++ sourceEnding

/-- The parts that the name of a module is joined of. -/
def moduleParts (file : Path) : List String :=
  let parts := file.parts.dropLast ++ [file.stem]
  if file.stem = "__init__" ∧ 1 < parts.length then parts.dropLast else parts

theorem moduleName_eq (file : Path) : moduleName file = ".".intercalate (moduleParts file) := rfl

/-- A part holds no dot, unless it is nothing but the ending of sources. -/
def IsModulePart (part : String) : Prop := part = sourceEnding ∨ part ≠ "" ∧ '.' ∉ part.toList

/-- What stands between the dots of a part. -/
def dotPieces (part : String) : List (List Char) :=
  if part = sourceEnding then [[], ['p', 'y']] else [part.toList]

theorem dotPieces_ne_nil (part : String) : dotPieces part ≠ [] := by
  rw [dotPieces]
  split <;> exact List.cons_ne_nil _ _

theorem join_dotPieces (part : String) : Text.join ['.'] (dotPieces part) = part.toList := by
  rw [dotPieces]
  split
  · rename_i isEnding
    rw [isEnding]
    rfl
  · exact Text.join_singleton part.toList

theorem intercalate_dotPieces (parts : List String) :
    (".".intercalate parts).toList = Text.join ['.'] (parts.flatMap dotPieces) := by
  rw [String.toList_intercalate]
  induction parts with
  | nil => rfl
  | cons part parts inductionHypothesis =>
      rw [List.map_cons, List.flatMap_cons]
      by_cases single : parts = []
      · rw [single, List.flatMap_nil, List.append_nil, join_dotPieces]
        exact Text.join_singleton part.toList
      · have more : parts.flatMap dotPieces ≠ [] := by
          obtain ⟨next, others, rfl⟩ := List.exists_cons_of_ne_nil single
          exact List.append_ne_nil_of_left_ne_nil (dotPieces_ne_nil next) _
        rw [Text.join_append (dotPieces_ne_nil part) more, join_dotPieces, ← inductionHypothesis]
        exact Text.join_cons_of_ne_nil (by simpa using single) part.toList

/-- The parts with these pieces: only the ending has an empty piece. -/
def partsOfPieces : List (List Char) → List String
  | [] :: _ :: rest => sourceEnding :: partsOfPieces rest
  | (head :: tail) :: rest => String.ofList (head :: tail) :: partsOfPieces rest
  | _ => []

theorem partsOfPieces_flatMap {parts : List String} (areParts : ∀ part ∈ parts, IsModulePart part) :
    partsOfPieces (parts.flatMap dotPieces) = parts := by
  induction parts with
  | nil => rfl
  | cons part parts inductionHypothesis =>
      obtain ⟨isPart, arePartsLater⟩ := List.forall_mem_cons.mp areParts
      have rest := inductionHypothesis arePartsLater
      rw [List.flatMap_cons, dotPieces]
      by_cases isEnding : part = sourceEnding
      · rw [if_pos isEnding, isEnding]
        exact congrArg (sourceEnding :: ·) rest
      · have nonempty := (isPart.resolve_left isEnding).1
        obtain ⟨head, tail, characters⟩ := List.exists_cons_of_ne_nil
          fun isEmpty => nonempty (String.toList_eq_nil_iff.mp isEmpty)
        rw [if_neg isEnding, List.singleton_append, characters, partsOfPieces, rest, ← characters,
          String.ofList_toList]

/-- The parts of a name are read back from it. -/
theorem partsOfPieces_splitOn {parts : List String} (areParts : ∀ part ∈ parts, IsModulePart part)
    (nonempty : parts ≠ []) :
    partsOfPieces ((".".intercalate parts).toList.splitOn '.') = parts := by
  have noDot : ∀ piece ∈ parts.flatMap dotPieces, '.' ∉ piece := by
    intro piece member
    obtain ⟨part, partMember, inside⟩ := List.mem_flatMap.mp member
    rw [dotPieces] at inside
    split at inside
    · have noDot : ∀ piece ∈ [[], ['p', 'y']], '.' ∉ piece := by decide
      exact noDot piece inside
    · rename_i isElse
      rw [List.mem_singleton.mp inside]
      exact ((areParts part partMember).resolve_left isElse).2
  have some : parts.flatMap dotPieces ≠ [] := by
    obtain ⟨part, others, rfl⟩ := List.exists_cons_of_ne_nil nonempty
    exact List.append_ne_nil_of_left_ne_nil (dotPieces_ne_nil part) _
  rw [intercalate_dotPieces, Text.join, List.splitOn_intercalate '.' noDot some,
    partsOfPieces_flatMap areParts]

/-! ## Sources -/

/-- The last part of a module's name for the stem of its file. -/
def stemPart (stem : String) : String := if stem = "" then sourceEnding else stem

theorem stemPart_inj {stem other : String} (noDot : '.' ∉ stem.toList) (noDot' : '.' ∉ other.toList)
    (same : stemPart stem = stemPart other) : stem = other := by
  have apart {stem : String} (noDot : '.' ∉ stem.toList) : stem ≠ sourceEnding := by
    rintro rfl
    exact noDot (by decide)
  rw [stemPart, stemPart] at same
  split at same <;> split at same
  · simp_all
  · exact absurd same.symm (apart noDot')
  · exact absurd same (apart noDot)
  · exact same

/-- The source with a stem in a directory. -/
def sourceAt (directory : List String) (stem : String) : Path :=
  { root := "", parts := directory ++ [stem ++ sourceEnding] }

/-- The file that initialises a package below the root stands for the package. -/
theorem moduleParts_sourceAt (directory : List String) (stem : String) :
    moduleParts (sourceAt directory stem) =
      if stem = "__init__" ∧ directory ≠ [] then directory
      else directory ++ [stemPart stem] := by
  have hasStem : (sourceAt directory stem).stem = stemPart stem :=
    Path.stem_of_name (by simp [sourceAt, Path.name])
  have isPackage : stemPart stem = "__init__" ↔ stem = "__init__" := by
    rw [stemPart]
    split
    · rename_i isEmpty
      rw [isEmpty]
      decide
    · exact Iff.rfl
  have isBelow : 1 < (directory ++ [stemPart stem]).length ↔ directory ≠ [] := by
    rw [List.length_append, List.length_singleton, ← List.length_pos_iff]
    omega
  have directories : (sourceAt directory stem).parts.dropLast = directory :=
    List.dropLast_concat
  simp only [moduleParts, hasStem, directories, isPackage, isBelow, List.dropLast_concat]

theorem IsPlainSource.exists_sourceAt {file : Path} (isSource : IsPlainSource file) :
    ∃ directory stem, file = sourceAt directory stem ∧
      (∀ part ∈ directory, part ≠ "" ∧ '.' ∉ part.toList) ∧ '.' ∉ stem.toList := by
  obtain ⟨relative, directories, stem, noDot, named⟩ := isSource
  have nonempty : file.parts ≠ [] := by
    intro isEmpty
    have characters := congrArg String.toList named
    rw [Path.name, isEmpty, String.toList_append] at characters
    exact absurd characters.symm (List.append_ne_nil_of_right_ne_nil _ (by decide))
  refine ⟨file.parts.dropLast, stem, ?_, directories, noDot⟩
  rw [sourceAt, ← named, Path.dropLast_append_name nonempty, ← relative]

/-- A module lies beside a package of its name: `x.py` beside `x/__init__.py`.  A place that ends with
the name of the files that initialise packages is that of a package, unless it is nothing else. -/
def BesidePackage (module package : Path) : Prop :=
  ∃ place : Path, place.parts ≠ [] ∧
    (place.parts = ["__init__"] ∨ place.name ≠ "__init__") ∧
      module = place.parent.child (place.name ++ sourceEnding) ∧
        package = place.child ("__init__" ++ sourceEnding)

theorem sourceAt_inj {directory directory' : List String} {stem stem' : String} :
    sourceAt directory stem = sourceAt directory' stem' ↔ directory = directory' ∧ stem = stem' := by
  rw [sourceAt, sourceAt, Path.mk.injEq, and_iff_right rfl, List.append_singleton_inj,
    String.append_left_inj]

theorem besidePackage_iff {directory directory' : List String} {stem stem' : String} :
    BesidePackage (sourceAt directory stem) (sourceAt directory' stem') ↔
      directory' = directory ++ [stem] ∧ stem' = "__init__" ∧
        ¬ (stem = "__init__" ∧ directory ≠ []) := by
  constructor
  · rintro ⟨place, nonempty, initial, module, package⟩
    have split := Path.dropLast_append_name nonempty
    have moduleParts : directory ++ [stem ++ sourceEnding] =
        place.parts.dropLast ++ [place.name ++ sourceEnding] := congrArg Path.parts module
    have packageParts : directory' ++ [stem' ++ sourceEnding] =
        place.parts ++ ["__init__" ++ sourceEnding] := congrArg Path.parts package
    rw [List.append_singleton_inj, String.append_left_inj] at moduleParts packageParts
    obtain ⟨rfl, rfl⟩ := moduleParts
    obtain ⟨rfl, rfl⟩ := packageParts
    refine ⟨split.symm, rfl, fun ⟨isInitial, below⟩ => ?_⟩
    rcases initial with alone | isElse
    · exact below (by rw [alone]; rfl)
    · exact isElse isInitial
  · rintro ⟨rfl, rfl, notPackage⟩
    refine ⟨⟨"", directory ++ [stem]⟩, by simp, ?_, ?_, rfl⟩
    · by_cases isInitial : stem = "__init__"
      · have atRoot : directory = [] :=
          Decidable.of_not_not fun below => notPackage ⟨isInitial, below⟩
        exact Or.inl (by rw [atRoot, isInitial]; rfl)
      · exact Or.inr (by simpa [Path.name] using isInitial)
    · simp [sourceAt, Path.parent, Path.child, Path.name]

/-- A part of a directory is no ending alone. -/
theorem eq_append_stemPart_iff {directory directory' : List String} {stem : String}
    (plain : ∀ part ∈ directory, part ≠ "" ∧ '.' ∉ part.toList) :
    directory = directory' ++ [stemPart stem] ↔ directory = directory' ++ [stem] := by
  by_cases isEmpty : stem = ""
  · have noEnding : directory ≠ directory' ++ [stemPart stem] := by
      rintro rfl
      refine (plain (stemPart stem) (by simp)).2 ?_
      rw [stemPart, if_pos isEmpty]
      decide
    have noEmpty : directory ≠ directory' ++ [stem] := by
      rintro rfl
      exact (plain stem (by simp)).1 isEmpty
    exact iff_of_false noEnding noEmpty
  · rw [stemPart, if_neg isEmpty]

/-- A module shares its parts with itself and, if it lies beside a package, with that. -/
theorem moduleParts_eq_iff {directory directory' : List String} {stem stem' : String}
    (plain : ∀ part ∈ directory, part ≠ "" ∧ '.' ∉ part.toList) (noDot : '.' ∉ stem.toList)
    (plain' : ∀ part ∈ directory', part ≠ "" ∧ '.' ∉ part.toList) (noDot' : '.' ∉ stem'.toList) :
    moduleParts (sourceAt directory stem) = moduleParts (sourceAt directory' stem') ↔
      (directory = directory' ∧ stem = stem') ∨
        BesidePackage (sourceAt directory stem) (sourceAt directory' stem') ∨
          BesidePackage (sourceAt directory' stem') (sourceAt directory stem) := by
  rw [moduleParts_sourceAt, moduleParts_sourceAt, besidePackage_iff, besidePackage_iff]
  by_cases isPackage : stem = "__init__" ∧ directory ≠ [] <;>
    by_cases isPackage' : stem' = "__init__" ∧ directory' ≠ []
  · rw [if_pos isPackage, if_pos isPackage']
    simp [isPackage, isPackage']
  · rw [if_pos isPackage, if_neg isPackage', eq_append_stemPart_iff plain]
    refine ⟨fun below => Or.inr (Or.inr ⟨below, isPackage.1, isPackage'⟩), ?_⟩
    rintro (⟨rfl, rfl⟩ | ⟨_, _, notPackage⟩ | ⟨below, _, _⟩)
    · exact absurd isPackage isPackage'
    · exact absurd isPackage notPackage
    · exact below
  · rw [if_neg isPackage, if_pos isPackage', eq_comm, eq_append_stemPart_iff plain']
    refine ⟨fun below => Or.inr (Or.inl ⟨below, isPackage'.1, isPackage⟩), ?_⟩
    rintro (⟨rfl, rfl⟩ | ⟨below, _, _⟩ | ⟨_, _, notPackage⟩)
    · exact absurd isPackage' isPackage
    · exact below
    · exact absurd isPackage' notPackage
  · rw [if_neg isPackage, if_neg isPackage', List.append_singleton_inj]
    refine ⟨fun ⟨sameDirectory, sameStem⟩ =>
      Or.inl ⟨sameDirectory, stemPart_inj noDot noDot' sameStem⟩, ?_⟩
    rintro (⟨rfl, rfl⟩ | ⟨below, isInitial, _⟩ | ⟨below, isInitial, _⟩)
    · exact ⟨rfl, rfl⟩
    · exact absurd ⟨isInitial, by simp [below]⟩ isPackage'
    · exact absurd ⟨isInitial, by simp [below]⟩ isPackage

theorem isModulePart_of_mem {directory : List String} {stem : String}
    (plain : ∀ part ∈ directory, part ≠ "" ∧ '.' ∉ part.toList) (noDot : '.' ∉ stem.toList) :
    ∀ part ∈ moduleParts (sourceAt directory stem), IsModulePart part := by
  have isLast : IsModulePart (stemPart stem) := by
    rw [stemPart]
    split
    · exact Or.inl rfl
    · rename_i nonempty
      exact Or.inr ⟨nonempty, noDot⟩
  intro part member
  rw [moduleParts_sourceAt] at member
  split at member
  · exact Or.inr (plain part member)
  · rcases List.mem_append.mp member with inDirectory | isStem
    · exact Or.inr (plain part inDirectory)
    · exact List.mem_singleton.mp isStem ▸ isLast

theorem moduleParts_ne_nil (directory : List String) (stem : String) :
    moduleParts (sourceAt directory stem) ≠ [] := by
  rw [moduleParts_sourceAt]
  split
  · rename_i isPackage
    exact isPackage.2
  · exact List.append_ne_nil_of_right_ne_nil _ (List.cons_ne_nil _ _)

/-- Two sources with plain components have the same module name just where they are the same or one
is a module beside the package of its name. -/
theorem moduleName_eq_iff {first second : Path} (isFirst : IsPlainSource first)
    (isSecond : IsPlainSource second) :
    moduleName first = moduleName second ↔
      first = second ∨ BesidePackage first second ∨ BesidePackage second first := by
  obtain ⟨directory, stem, rfl, plain, noDot⟩ := isFirst.exists_sourceAt
  obtain ⟨directory', stem', rfl, plain', noDot'⟩ := isSecond.exists_sourceAt
  have sameParts : moduleName (sourceAt directory stem) = moduleName (sourceAt directory' stem') ↔
      moduleParts (sourceAt directory stem) = moduleParts (sourceAt directory' stem') := by
    refine ⟨fun sameName => ?_, congrArg (".".intercalate ·)⟩
    have pieces := congrArg (fun name => partsOfPieces (name.toList.splitOn '.')) sameName
    simp only [moduleName_eq] at pieces
    rwa [partsOfPieces_splitOn (isModulePart_of_mem plain noDot) (moduleParts_ne_nil _ _),
      partsOfPieces_splitOn (isModulePart_of_mem plain' noDot') (moduleParts_ne_nil _ _)] at pieces
  rw [sameParts, moduleParts_eq_iff plain noDot plain' noDot', sourceAt_inj]

/-- The file that would initialise the root is a module, and a package may have its name. -/
theorem moduleName_eq_iff_initial :
    IsPlainSource ⟨"", ["__init__.py"]⟩ ∧ IsPlainSource ⟨"", ["__init__", "__init__.py"]⟩ ∧
      moduleName ⟨"", ["__init__.py"]⟩ = moduleName ⟨"", ["__init__", "__init__.py"]⟩ := by
  have isModule : IsPlainSource ⟨"", ["__init__.py"]⟩ :=
    ⟨rfl, by decide, "__init__", by decide, by decide⟩
  have isPackage : IsPlainSource ⟨"", ["__init__", "__init__.py"]⟩ :=
    ⟨rfl, by decide, "__init__", by decide, by decide⟩
  refine ⟨isModule, isPackage, (moduleName_eq_iff isModule isPackage).mpr (Or.inr (Or.inl ?_))⟩
  exact ⟨⟨"", ["__init__"]⟩, by decide, Or.inl rfl, by decide, by decide⟩

end Convert

end ApiDocs
