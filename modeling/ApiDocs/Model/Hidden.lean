import ApiDocs.Model.Store
import ApiDocs.Text.Lines

/-!
Hidden declarations: those whose comment has a line that holds the tag `@hidden` and nothing
else.  They are left out of the documentation together with everything they enclose.
-/

namespace ApiDocs

/-- The tag of a hidden declaration. -/
def hiddenTag : String := "@hidden"

/-- Whether a comment carries the tag on a line of its own. -/
def isHiddenComment (comment : String) : Bool :=
  (Text.lines comment.toList).any fun line => Text.trim line == hiddenTag.toList

namespace Model

def isHidden (model : Model) (key : Nat) : Bool :=
  match model.declaration? key with
  | some declaration => isHiddenComment declaration.comment
  | none => false

/-- A declaration is taken away from its parent, if it has one. -/
def detach (model : Model) (key : Nat) : Model :=
  match model.parent? key with
  | some parent => (model.removeChild parent key).2
  | none => model

/-- The hidden descendants of a declaration are taken away from their parents. -/
def removeHidden (model : Model) (key : Nat) : Model :=
  ((model.descendants key).filter model.isHidden).foldl detach model

end Model

end ApiDocs
