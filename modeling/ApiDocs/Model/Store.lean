import ApiDocs.Model.Declaration

/-!
The model of a project while it is built and changed: declarations with an identity of their own,
each with the list of its children and, once it has been added to one, its parent.

Nothing forbids adding a declaration to several parents, or twice to the same one; the parent is
then the one it was added to last.
-/

namespace ApiDocs

/-- A declaration in a model.  Projects have a readme. -/
structure Node where
  declaration : Declaration
  children : List Nat
  parent : Option Nat
  readme : Option String
deriving DecidableEq, Repr

/-- The declarations of a model; the position in the array is the identity. -/
structure Model where
  nodes : Array Node
deriving DecidableEq, Repr

namespace Model

/-- The model without declarations. -/
def empty : Model := ⟨#[]⟩

def size (model : Model) : Nat := model.nodes.size

def node? (model : Model) (key : Nat) : Option Node := model.nodes[key]?

/-- One declaration is changed, if there is one of that identity. -/
def modify (model : Model) (key : Nat) (change : Node → Node) : Model :=
  ⟨model.nodes.modify key change⟩

/-- A new declaration without parent and children; its identity is the old size. -/
def create (model : Model) (declaration : Declaration) : Model :=
  ⟨model.nodes.push { declaration, children := [], parent := none, readme := none }⟩

/-- A new project. -/
def createProject (model : Model) (declaration : Declaration) (readme : String) : Model :=
  ⟨model.nodes.push { declaration, children := [], parent := none, readme := some readme }⟩

def declaration? (model : Model) (key : Nat) : Option Declaration :=
  (model.node? key).map Node.declaration

def children (model : Model) (key : Nat) : List Nat :=
  ((model.node? key).map Node.children).getD []

def parent? (model : Model) (key : Nat) : Option Nat := (model.node? key).bind Node.parent

/-! ## Changes -/

/-- The child comes last among the children and gets the new parent. -/
def addChild (model : Model) (parent child : Nat) : Model :=
  (model.modify child fun node => { node with parent := some parent }).modify parent
    fun node => { node with children := node.children ++ [child] }

/-- The first occurrence of the child is removed; the answer says whether there was one.  A child
that was removed has no parent. -/
def removeChild (model : Model) (parent child : Nat) : Bool × Model :=
  if (model.children parent).contains child then
    (true, (model.modify parent fun node => { node with children := node.children.erase child }).modify
      child fun node => { node with parent := none })
  else (false, model)

def rename (model : Model) (key : Nat) (name : String) : Model :=
  model.modify key fun node =>
    { node with declaration := { node.declaration with name } }

def addFlag (model : Model) (key : Nat) (flag : String) : Model :=
  model.modify key fun node => { node with declaration := node.declaration.addFlag flag }

/-! ## Questions -/

/-- The first child of that name. -/
def child? (model : Model) (key : Nat) (name : String) : Option Nat :=
  (model.children key).find? fun child =>
    match model.declaration? child with
    | some declaration => declaration.name == name
    | none => false

/-- The children of the given kinds, in their order. -/
def childrenOfKind (model : Model) (key : Nat) (kinds : List Kind) : List Nat :=
  (model.children key).filter fun child =>
    match model.declaration? child with
    | some declaration => kinds.contains declaration.kind
    | none => false

def modules (model : Model) (key : Nat) : List Nat := model.childrenOfKind key [.moduleFile]

/-- A declaration, its parent, and so on upwards, at most `bound` of them. -/
def chainUpTo (model : Model) : Nat → Nat → List Declaration
  | 0, _ => []
  | bound + 1, key =>
    match model.node? key with
    | none => []
    | some node =>
      node.declaration ::
        match node.parent with
        | none => []
        | some parent => chainUpTo model bound parent

/-- A declaration and those that enclose it, nearest first.  Where no declaration encloses itself
there are at most as many as the model has. -/
def chain (model : Model) (key : Nat) : List Declaration := model.chainUpTo model.size key

def fullName (model : Model) (key : Nat) : String := Declaration.dottedName (model.chain key)

/-- The descendants of a declaration down to a depth, parents before children. -/
def descendantsTo (model : Model) : Nat → Nat → List Nat
  | 0, _ => []
  | depth + 1, key =>
    (model.children key).flatMap fun child => child :: descendantsTo model depth child

/-- Every descendant, parents before children.  Where no declaration encloses itself the depth is
bounded by the size of the model. -/
def descendants (model : Model) (key : Nat) : List Nat := model.descendantsTo model.size key

end Model

end ApiDocs
