import ApiDocs.Proofs.Convert.Graft
import ApiDocs.Proofs.Model.Shape

/-!
# The shape of outlines

Whatever a source file contains, its outline is a module that encloses what modules enclose, and
the classes in it enclose what classes enclose.
-/

namespace ApiDocs.Convert

open ApiDocs.Source (Expr FunctionDefinition PrintFault Statement SourceFile)

/-- An entry can stand below a declaration of a kind. -/
def Entry.Fits (outer : Kind) (entry : Entry) : Prop :=
  ∀ tree ∈ entry.trees, tree.declaration.kind ∈ outer.encloses ∧ tree.Shaped

variable {outer : Kind}

theorem failed_fits (failure : Failure) : (Entry.failed failure).Fits outer := by
  intro tree member
  rw [Entry.trees] at member
  cases member

theorem declared_fits
    {declaration : Declaration} (origin : Origin) {members : List Entry}
    (kind : declaration.kind ∈ outer.encloses)
    (membersFit : ∀ entry ∈ members, entry.Fits declaration.kind) :
    (Entry.declared declaration origin members).Fits outer := by
  intro tree member
  rw [Entry.trees, List.mem_singleton] at member
  subst member
  refine ⟨kind, ?_⟩
  have fits : ∀ child ∈ treesOf members,
      child.declaration.kind ∈ declaration.kind.encloses ∧ child.Shaped := by
    intro child childMember
    rw [treesOf_eq_flatMap, List.mem_flatMap] at childMember
    obtain ⟨entry, entryMember, inside⟩ := childMember
    exact membersFit entry entryMember child inside
  exact Tree.Shaped.node (fun child member => (fits child member).1)
    fun child member => (fits child member).2

theorem entryOf_fits
    (origin : Origin) {declaration : Except PrintFault Declaration} {members : List Entry}
    (fits : ∀ result, declaration = .ok result →
      result.kind ∈ outer.encloses ∧ ∀ entry ∈ members, entry.Fits result.kind) :
    (entryOf origin declaration members).Fits outer := by
  cases declaration with
  | error fault =>
      exact failed_fits _
  | ok result =>
      obtain ⟨kind, membersFit⟩ := fits result rfl
      exact declared_fits origin kind membersFit

/-! ## Statements -/

/-- A function keeps its name, its line and its kind, except that a method can be a property. -/
theorem functionDeclaration_eq_ok
    {view : View} {kind : Kind} {definition : FunctionDefinition} {declaration : Declaration}
    (result : functionDeclaration view kind definition = .ok declaration) :
    declaration.name = definition.name ∧ declaration.source = view.place definition.line ∧
      (declaration.kind = kind ∨ kind = .method ∧ declaration.kind = .property) := by
  rw [functionDeclaration] at result
  cases texts : view.writeAll kind definition.decorators with
  | error fault =>
      rw [texts] at result
      cases result
  | ok decorators =>
      cases signature : functionSignature view kind definition with
      | error fault =>
          rw [texts, signature] at result
          cases result
      | ok parameters =>
          rw [texts, signature] at result
          cases result
          refine ⟨rfl, rfl, ?_⟩
          simp only
          split
          · rename_i isProperty
            exact Or.inr ⟨isProperty.1, rfl⟩
          · exact Or.inl rfl

theorem functionEntries_fit
    {view : View} {kind : Kind} {definition : FunctionDefinition}
    (encloses : kind ∈ outer.encloses)
    (enclosesProperty : kind = .method → .property ∈ outer.encloses)
    {entry : Entry} (member : entry ∈ functionEntries view kind definition) :
    entry.Fits outer := by
  rw [functionEntries] at member
  split at member
  · rw [List.mem_singleton.mp member]
    apply entryOf_fits
    intro declaration result
    refine ⟨?_, by simp⟩
    rcases (functionDeclaration_eq_ok result).2.2 with same | ⟨isMethod, isProperty⟩
    · rw [same]
      exact encloses
    · rw [isProperty]
      exact enclosesProperty isMethod
  · cases member

theorem variableEntries_fit
    {view : View} {kind : Kind} {origin : Origin} {names : List String}
    {signature : Except PrintFault (List Char)} {line : Nat}
    (encloses : kind ∈ outer.encloses)
    {entry : Entry} (member : entry ∈ variableEntries view kind origin names signature line) :
    entry.Fits outer := by
  cases signature with
  | error fault =>
      rw [variableEntries, List.mem_singleton] at member
      rw [member]
      exact failed_fits _
  | ok signature =>
      rw [variableEntries, List.mem_map] at member
      obtain ⟨name, _, rfl⟩ := member
      exact declared_fits origin encloses (by simp)

theorem typedEntries_fit
    {view : View} {kind : Kind} {target type : Expr} {value : Option Expr} {line : Nat}
    (encloses : kind ∈ outer.encloses)
    {entry : Entry} (member : entry ∈ typedEntries view kind target type value line) :
    entry.Fits outer := by
  rw [typedEntries.eq_def] at member
  split at member
  · exact variableEntries_fit encloses member
  · cases member

theorem memberEntries_fit
    {view : View} {statement : Statement} {entry : Entry}
    (member : entry ∈ memberEntries view statement) :
    entry.Fits .classDefinition := by
  rw [memberEntries.eq_def] at member
  split at member
  · exact functionEntries_fit (by decide) (by decide) member
  · exact typedEntries_fit (by decide) member
  · cases member

/-- The declaration of a class, or the failure to write its bases. -/
def classDeclaration (view : View) (name : String) (bases : List Expr) (comment : String)
    (line : Nat) : Except PrintFault Declaration := do
  let signature ← basesText view bases
  return Declaration.mk name .classDefinition comment (String.ofList signature)
    (view.place line) []

theorem classEntries_eq
    (view : View) (name : String) (bases : List Expr) (comment : String) (body : List Statement)
    (line : Nat) :
    classEntries view name bases comment body line =
      if view.shows name then
        [entryOf .classDefinition (classDeclaration view name bases comment line)
          (body.flatMap (memberEntries view))]
      else [] :=
  rfl

/-- A class keeps its name and its line. -/
theorem classDeclaration_eq_ok
    {view : View} {name comment : String} {bases : List Expr} {line : Nat}
    {declaration : Declaration}
    (result : classDeclaration view name bases comment line = .ok declaration) :
    declaration.name = name ∧ declaration.source = view.place line ∧
      declaration.kind = .classDefinition := by
  rw [classDeclaration] at result
  cases signature : basesText view bases with
  | error fault =>
      rw [signature] at result
      cases result
  | ok text =>
      rw [signature] at result
      cases result
      exact ⟨rfl, rfl, rfl⟩

theorem classEntries_fit
    {view : View} {name : String} {bases : List Expr} {comment : String}
    {body : List Statement} {line : Nat} {entry : Entry}
    (member : entry ∈ classEntries view name bases comment body line) :
    entry.Fits .moduleFile := by
  rw [classEntries_eq] at member
  split at member
  · rw [List.mem_singleton.mp member]
    apply entryOf_fits
    intro declaration result
    rw [(classDeclaration_eq_ok result).2.2]
    refine ⟨by decide, ?_⟩
    intro other otherMember
    obtain ⟨statement, _, inside⟩ := List.mem_flatMap.mp otherMember
    exact memberEntries_fit inside
  · cases member

theorem statementEntries_fit
    {view : View} {statement : Statement} {entry : Entry}
    (member : entry ∈ statementEntries view statement) :
    entry.Fits .moduleFile := by
  rw [statementEntries.eq_def] at member
  split at member
  · exact classEntries_fit member
  · exact functionEntries_fit (by decide) (by decide) member
  · exact variableEntries_fit (by decide) member
  · exact typedEntries_fit (by decide) member
  · cases member

/-- The outline of every source file is a module of the usual shape. -/
theorem moduleEntry_fits (view : View) (name : String) (source : SourceFile) :
    (moduleEntry view name source).Fits .project := by
  apply declared_fits
  · exact List.mem_singleton.mpr rfl
  · intro entry member
    obtain ⟨statement, _, inside⟩ := List.mem_flatMap.mp member
    exact statementEntries_fit inside

end ApiDocs.Convert
