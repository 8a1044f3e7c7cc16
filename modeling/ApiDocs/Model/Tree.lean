import ApiDocs.Model.Store

/-!
Finished projects as trees, and places in them.  A place knows what encloses it, which gives it
its full name, and its position, which tells apart declarations that look alike.
-/

namespace ApiDocs

/-- A declaration with all it encloses. -/
inductive Tree where
  | node (declaration : Declaration) (children : List Tree)

instance : Inhabited Tree := ⟨.node (Declaration.ofName "" .project) []⟩

namespace Tree

def declaration : Tree → Declaration
  | node declaration _ => declaration

def children : Tree → List Tree
  | node _ children => children

end Tree

/-- A project to be documented. -/
structure Project where
  readme : String
  tree : Tree

/-- A declaration in a project: the tree below it, the declarations that enclose it and its
positions among its siblings, both from the nearest to the outermost. -/
structure Place where
  tree : Tree
  ancestors : List Declaration
  position : List Nat

namespace Place

def declaration (place : Place) : Declaration := place.tree.declaration

/-- The declaration with those that enclose it, nearest first. -/
def chain (place : Place) : List Declaration := place.declaration :: place.ancestors

def fullName (place : Place) : String := Declaration.dottedName place.chain

/-- The places of the children. -/
def children (place : Place) : List Place :=
  place.tree.children.mapIdx fun index tree =>
    { tree, ancestors := place.chain, position := index :: place.position }

/-- The children of one kind. -/
def childrenOfKind (place : Place) (kind : Kind) : List Place :=
  place.children.filter fun child => child.declaration.kind = kind

end Place

mutual

/-- The place of a tree and of everything below it, parents before children. -/
def Tree.places (ancestors : List Declaration) (position : List Nat) : Tree → List Place
  | .node declaration children =>
    { tree := .node declaration children, ancestors, position } ::
      Tree.placesOfList (declaration :: ancestors) position 0 children

/-- The places of a list of siblings, the first of which has the given index. -/
def Tree.placesOfList (ancestors : List Declaration) (position : List Nat) (index : Nat) :
    List Tree → List Place
  | [] => []
  | tree :: trees =>
    tree.places ancestors (index :: position) ++
      Tree.placesOfList ancestors position (index + 1) trees

end

namespace Project

def root (project : Project) : Place := { tree := project.tree, ancestors := [], position := [] }

def name (project : Project) : String := project.tree.declaration.name

/-- The modules of the project itself. -/
def modules (project : Project) : List Place := project.root.childrenOfKind .moduleFile

/-- Every place but the root, parents before children. -/
def descendants (project : Project) : List Place :=
  Tree.placesOfList [project.tree.declaration] [] 0 project.tree.children

end Project

namespace Model

/-- The tree below a declaration, down to a depth. -/
def treeTo (model : Model) : Nat → Nat → Tree
  | 0, key => .node ((model.declaration? key).getD (Declaration.ofName "" .project)) []
  | depth + 1, key =>
    .node ((model.declaration? key).getD (Declaration.ofName "" .project))
      ((model.children key).map (treeTo model depth))

/-- The project that a declaration of the model stands for. -/
def project (model : Model) (key : Nat) : Project :=
  { readme := ((model.node? key).bind Node.readme).getD ""
    tree := model.treeTo model.size key }

end Model

end ApiDocs
