import ApiDocs.Proofs.Convert.FileWise

/-!
# Private names and sources are left out afterwards

The switches for private names and for sources select from one project: whatever a conversion shows
with other values of them is what it shows with both switched off, without the private members of
modules and classes, or without sources.
-/

namespace ApiDocs

/-- Names that begin with an underscore are private, except that of the initialiser. -/
def isPrivateName (name : String) : Bool := name.startsWith "_" && name != "__init__"

def Declaration.withoutSource (declaration : Declaration) (hides : Bool) : Declaration :=
  { declaration with source := if hides then none else declaration.source }

mutual

/-- A declaration of which private members and sources are left out, where the switches say so. -/
def Tree.select (excludes hides : Bool) : Tree → Tree
  | .node declaration children =>
    .node (declaration.withoutSource hides) (Tree.selectMembers excludes hides children)

def Tree.selectMembers (excludes hides : Bool) : List Tree → List Tree
  | [] => []
  | tree :: trees =>
    if excludes && isPrivateName tree.declaration.name then selectMembers excludes hides trees
    else tree.select excludes hides :: selectMembers excludes hides trees

end

/-- A project of which private members of modules are left out, with all they enclose, and
sources. -/
def Project.select (project : Project) (excludes hides : Bool) : Project :=
  { project with
    tree := .node project.tree.declaration
      (project.tree.children.map (Tree.select excludes hides)) }

/-- Options with both switches set. -/
def Options.selecting (options : Options) (excludes hides : Bool) : Options :=
  (options.put .excludePrivate (.switch excludes)).put .disableSources (.switch hides)

/-- Members that are kept stay in their order. -/
theorem Tree.selectMembers_eq (excludes hides : Bool) (trees : List Tree) :
    Tree.selectMembers excludes hides trees =
      (trees.filter fun tree => !(excludes && isPrivateName tree.declaration.name)).map
        (Tree.select excludes hides) := by
  induction trees with
  | nil => rw [selectMembers, List.filter_nil, List.map_nil]
  | cons tree trees inductionHypothesis =>
      rw [selectMembers, List.filter_cons, inductionHypothesis]
      cases excludes && isPrivateName tree.declaration.name <;> rfl

namespace Convert

open ApiDocs.Computation
open ApiDocs.Source (Expr FunctionDefinition PrintFault Statement SourceFile)

/-! ## Declarations of one file -/

variable {excludes hides : Bool}

/-- A view of a file with the switches. -/
def viewWith (platform : Platform) (file : String) (excludes hides : Bool) : View :=
  { file, excludesPrivate := excludes, hidesSources := hides, platform }

/-- Where entries hold no failure, others hold none either, and they are selected from them. -/
def Selects (excludes hides : Bool) (entries selected : List Entry) : Prop :=
  firstFailure? entries = none →
    firstFailure? selected = none ∧
      treesOf selected = Tree.selectMembers excludes hides (treesOf entries)

theorem Selects.nil : Selects excludes hides [] [] := by
  intro sound
  refine ⟨sound, ?_⟩
  rw [treesOf, Tree.selectMembers]

theorem treesOf_append (first second : List Entry) :
    treesOf (first ++ second) = treesOf first ++ treesOf second := by
  simp only [treesOf_eq_flatMap, List.flatMap_append]

theorem Selects.append
    {entries selected others otherSelected : List Entry}
    (first : Selects excludes hides entries selected)
    (second : Selects excludes hides others otherSelected) :
    Selects excludes hides (entries ++ others) (selected ++ otherSelected) := by
  intro sound
  obtain ⟨firstSound, secondSound⟩ := firstFailure?_append.mp sound
  obtain ⟨firstSelected, firstTrees⟩ := first firstSound
  obtain ⟨secondSelected, secondTrees⟩ := second secondSound
  refine ⟨firstFailure?_append.mpr ⟨firstSelected, secondSelected⟩, ?_⟩
  rw [treesOf_append, treesOf_append, firstTrees, secondTrees, Tree.selectMembers_eq,
    Tree.selectMembers_eq, Tree.selectMembers_eq, List.filter_append, List.map_append]

theorem Selects.flatMap
    {Item : Type} {items : List Item} {entries selected : Item → List Entry}
    (each : ∀ item ∈ items, Selects excludes hides (entries item) (selected item)) :
    Selects excludes hides (items.flatMap entries) (items.flatMap selected) := by
  induction items with
  | nil => exact Selects.nil
  | cons item items inductionHypothesis =>
      obtain ⟨first, rest⟩ := List.forall_mem_cons.mp each
      rw [List.flatMap_cons, List.flatMap_cons]
      exact first.append (inductionHypothesis rest)

theorem shows_viewWith (platform : Platform) (file : String) (excludes hides : Bool)
    (name : String) :
    (viewWith platform file excludes hides).shows name = !(excludes && isPrivateName name) := by
  rw [View.shows, viewWith, isPrivateName, bne]
  cases excludes <;> cases name == "__init__" <;> cases name.startsWith "_" <;> rfl

/-! ## Entries -/

/-- An entry is selected unless its name is private, with what is selected below it. -/
theorem Selects.entryOf
    (origin : Origin) {declaration : Except PrintFault Declaration} {name : String}
    (named : ∀ result, declaration = .ok result → result.name = name)
    {members selectedMembers : List Entry}
    (below : Selects excludes hides members selectedMembers) :
    Selects excludes hides [Convert.entryOf origin declaration members]
      (if !(excludes && isPrivateName name) then
        [Convert.entryOf origin (declaration.map (·.withoutSource hides)) selectedMembers]
      else []) := by
  intro sound
  cases declaration with
  | error fault => cases firstFailure?_singleton.mp sound
  | ok result =>
      obtain rfl := named result rfl
      obtain ⟨membersSound, membersTrees⟩ := below (firstFailure?_singleton.mp sound)
      rw [Convert.entryOf, treesOf_declared, treesOf, Tree.selectMembers, Tree.declaration,
        Tree.select, Tree.selectMembers, ← membersTrees]
      cases excludes && isPrivateName result.name with
      | true => exact ⟨rfl, by rfl⟩
      | false =>
          exact ⟨firstFailure?_singleton.mpr membersSound, treesOf_declared _ _ _ _⟩

variable (platform : Platform) (file : String)

/-! What is written does not depend on the switches. -/

theorem writeAll_viewWith :
    (viewWith platform file excludes hides).writeAll =
      (viewWith platform file false false).writeAll := rfl

theorem functionSignature_viewWith :
    functionSignature (viewWith platform file excludes hides) =
      functionSignature (viewWith platform file false false) := rfl

theorem typedSignature_viewWith :
    typedSignature (viewWith platform file excludes hides) =
      typedSignature (viewWith platform file false false) := rfl

theorem assignedSignature_viewWith :
    assignedSignature (viewWith platform file excludes hides) =
      assignedSignature (viewWith platform file false false) := rfl

theorem basesText_viewWith :
    basesText (viewWith platform file excludes hides) =
      basesText (viewWith platform file false false) := rfl

theorem functionEntries_selects (kind : Kind) (definition : FunctionDefinition) :
    Selects excludes hides (functionEntries (viewWith platform file false false) kind definition)
      (functionEntries (viewWith platform file excludes hides) kind definition) := by
  have declared : functionDeclaration (viewWith platform file excludes hides) kind definition =
      (functionDeclaration (viewWith platform file false false) kind definition).map
        (·.withoutSource hides) := by
    rw [functionDeclaration, functionDeclaration, writeAll_viewWith, functionSignature_viewWith]
    cases (viewWith platform file false false).writeAll kind definition.decorators with
    | error fault => rfl
    | ok decorators =>
        cases functionSignature (viewWith platform file false false) kind definition <;> rfl
  rw [functionEntries, functionEntries, shows_viewWith platform file excludes hides,
    shows_viewWith platform file false false, declared]
  exact Selects.entryOf _ (fun _ result => (functionDeclaration_eq_ok result).1) Selects.nil

theorem variableEntries_selects
    (kind : Kind) (origin : Origin) (names : List String)
    (signature : Except PrintFault (List Char)) (line : Nat) :
    Selects excludes hides
      (variableEntries (viewWith platform file false false) kind origin names signature line)
      (variableEntries (viewWith platform file excludes hides) kind origin names signature
        line) := by
  cases signature with
  | error fault =>
      intro sound
      cases firstFailure?_singleton.mp sound
  | ok signature =>
      rw [variableEntries, variableEntries]
      -- each name of an assignment is shown or not, whatever becomes of the others
      induction names with
      | nil => exact Selects.nil
      | cons name names inductionHypothesis =>
          let declaration : Declaration :=
            { name, kind, comment := "", signature := String.ofList signature,
              source := (viewWith platform file false false).place line, flags := [] }
          have first : Selects excludes hides [.declared declaration origin []]
              (if !(excludes && isPrivateName name) then
                [.declared (declaration.withoutSource hides) origin []] else []) :=
            @Selects.entryOf excludes hides origin (.ok declaration) name
              (fun _ same => by cases same; rfl) [] [] Selects.nil
          have both := first.append inductionHypothesis
          rw [List.filter_cons, List.filter_cons, shows_viewWith, shows_viewWith]
          cases kept : excludes && isPrivateName name with
          | true | false =>
              rw [kept] at both
              exact both

theorem typedEntries_selects
    (kind : Kind) (target type : Expr) (value : Option Expr) (line : Nat) :
    Selects excludes hides
      (typedEntries (viewWith platform file false false) kind target type value line)
      (typedEntries (viewWith platform file excludes hides) kind target type value line) := by
  cases target with
  | name name =>
      rw [typedEntries, typedEntries, typedSignature_viewWith]
      exact variableEntries_selects platform file kind _ _ _ line
  | _ => exact Selects.nil

theorem memberEntries_selects (statement : Statement) :
    Selects excludes hides (memberEntries (viewWith platform file false false) statement)
      (memberEntries (viewWith platform file excludes hides) statement) := by
  cases statement with
  | function definition => exact functionEntries_selects platform file .method definition
  | typed target type value line =>
      exact typedEntries_selects platform file .property target type value line
  | _ => exact Selects.nil

theorem classEntries_selects
    (name : String) (bases : List Expr) (comment : String) (body : List Statement) (line : Nat) :
    Selects excludes hides
      (classEntries (viewWith platform file false false) name bases comment body line)
      (classEntries (viewWith platform file excludes hides) name bases comment body line) := by
  have declared : classDeclaration (viewWith platform file excludes hides) name bases comment line =
      (classDeclaration (viewWith platform file false false) name bases comment line).map
        (·.withoutSource hides) := by
    rw [classDeclaration, classDeclaration, basesText_viewWith]
    cases basesText (viewWith platform file false false) bases <;> rfl
  rw [classEntries_eq, classEntries_eq, shows_viewWith platform file excludes hides,
    shows_viewWith platform file false false, declared]
  exact Selects.entryOf _ (fun _ result => (classDeclaration_eq_ok result).1)
    (Selects.flatMap fun statement _ => memberEntries_selects platform file statement)

theorem statementEntries_selects (statement : Statement) :
    Selects excludes hides (statementEntries (viewWith platform file false false) statement)
      (statementEntries (viewWith platform file excludes hides) statement) := by
  cases statement with
  | classDefinition name bases comment body line =>
      exact classEntries_selects platform file name bases comment body line
  | function definition => exact functionEntries_selects platform file .function definition
  | assignment targets value line =>
      rw [statementEntries, statementEntries, assignmentEntries, assignmentEntries,
        assignedSignature_viewWith]
      exact variableEntries_selects platform file _ _ _ _ line
  | typed target type value line =>
      exact typedEntries_selects platform file .variableBinding target type value line
  | _ => exact Selects.nil

/-! ## Modules -/

variable {platform : Platform} {options : Options} {disk : Disk} {relative : Path}
  {source : SourceInput} {sources : List SourceInput}

/-- A module that can be written can be written with any switches, and its members are selected. -/
theorem moduleTree_select
    {syntaxTree : SourceFile}
    (writable : IsWritable platform (options.selecting false false) relative syntaxTree) :
    IsWritable platform (options.selecting excludes hides) relative syntaxTree ∧
      moduleTree platform (options.selecting excludes hides) relative syntaxTree =
        (moduleTree platform (options.selecting false false) relative syntaxTree).select
          excludes hides := by
  have members : Selects excludes hides
      (syntaxTree.body.flatMap (statementEntries (viewWith platform relative.text false false)))
      (syntaxTree.body.flatMap
        (statementEntries (viewWith platform relative.text excludes hides))) :=
    Selects.flatMap fun statement _ => statementEntries_selects platform relative.text statement
  obtain ⟨sound, trees⟩ := members writable
  refine ⟨sound, ?_⟩
  rw [moduleTree, moduleTree, Tree.select]
  exact congrArg₂ Tree.node rfl trees

theorem allWritable_select
    (writable : AllWritable platform (options.selecting false false) disk sources) :
    AllWritable platform (options.selecting excludes hides) disk sources :=
  fun source member syntaxTree parses =>
    (moduleTree_select (writable source member syntaxTree parses)).1

theorem moduleTrees_select
    (writable : AllWritable platform (options.selecting false false) disk sources) :
    moduleTrees platform (options.selecting excludes hides) disk sources =
      (moduleTrees platform (options.selecting false false) disk sources).map
        (Tree.select excludes hides) := by
  rw [moduleTrees, moduleTrees, List.map_filterMap]
  apply List.filterMap_congr
  intro source member
  rw [Option.map_map]
  apply Option.map_congr
  intro syntaxTree parses
  exact (moduleTree_select (writable source member syntaxTree parses)).2

/-- What is reported about a source does not depend on options. -/
theorem messages_readInput
    (platform : Platform) (options other : Options) (disk : Disk) (source : SourceInput) :
    (readInput platform options disk source).messages =
      (readInput platform other disk source).messages := by
  rw [readInput, readInput]
  cases readText disk source.file with
  | error failure => rfl
  | ok text =>
      simp only [readSource]
      split
      · rfl
      · split
        · rfl
        · cases SourceFile.read platform.names text <;> rfl

/-! ## Conversions -/

variable {Observed : Type} {converter after : Converter Observed}

/-- The switches for private names and for sources select from one project.  If a conversion returns
with both switched off, it returns with any values of them, logs the same messages, and gives the
same project without the private members of modules and classes, or without sources. -/
theorem conversion_selects
    (noListeners : NoListeners converter.hooks)
    {inputs : List String} {key : Nat}
    (returns : Returns (convert inputs)
      { converter with options := converter.options.selecting false false } key after)
    (excludes hides : Bool) :
    ∃ other,
      Returns (convert inputs)
          { converter with options := converter.options.selecting excludes hides } key other ∧
        other.logger = after.logger ∧
        other.model.project key = (after.model.project key).select excludes hides := by
  let plain : Converter Observed :=
    { converter with options := converter.options.selecting false false }
  let selecting : Converter Observed :=
    { converter with options := converter.options.selecting excludes hides }
  obtain ⟨sources, readme, notes, proceeds, rfl, rfl⟩ :=
    (convert_returns_iff (by exact noListeners)).mp returns
  obtain ⟨decided, writable⟩ := failure?_eq_none_iff.mp proceeds.sources
  have proceedsToo : Proceeds selecting inputs sources readme notes :=
    ⟨proceeds.readme, proceeds.inputs,
      failure?_eq_none_iff.mpr ⟨decided, allWritable_select writable⟩⟩
  have project := converted_project plain inputs sources readme notes
  have selected := converted_project selecting inputs sources readme notes
  rw [trees_outlines sources] at project selected
  refine ⟨_, convert_run (by exact noListeners) proceedsToo, ?_, ?_⟩
  · have messages :
        sourceMessages selecting.environment.platform selecting.options selecting.disk sources =
          sourceMessages plain.environment.platform plain.options plain.disk sources :=
      List.flatMap_congr fun source _ => messages_readInput _ _ _ _ _
    rw [converted, converted, conversionMessages, conversionMessages, messages]
  · refine selected.trans ?_
    rw [project, moduleTrees_select writable]
    rfl

/-- A source with private members of a module and of a class, which also has an initialiser. -/
def privateText : String :=
  "class A:\n  def _f(self): pass\n  def __init__(self): pass\ndef _g(): pass\n"

theorem conversion_selects_private :
    let start := converterOf [("m.py", Text.encode privateText.toList)]
    ∃ key other,
      Returns (convert ["m.py"]) { start with options := start.options.selecting true true }
          key other ∧
        ((other.model.project key).descendants.map fun place =>
          (place.declaration.name, place.declaration.source)) =
            [("m", none), ("A", none), ("__init__", none)] := by
  intro start
  let plain : Converter Unit := { start with options := start.options.selecting false false }
  have returns : Returns (convert ["m.py"]) plain 0 ((convert ["m.py"]).run plain).2 :=
    Prod.ext (eq_ok_of_toOption (by decide +kernel)) rfl
  obtain ⟨other, converted, _, project⟩ :=
    conversion_selects (converterOf_noListeners _) returns true true
  refine ⟨0, other, converted, ?_⟩
  rw [project]
  decide +kernel

end Convert

end ApiDocs
