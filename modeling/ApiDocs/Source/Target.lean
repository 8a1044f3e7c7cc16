import ApiDocs.Source.Tree

/-!
Which expressions can be assigned to.  While an expression is read, its shape as a target is kept
beside it, with the lines of the parts that cannot be assigned to.
-/

namespace ApiDocs.Source

/-- The shape of an expression as a target: a name, attribute or subscript; a sequence of targets;
a starred target; a comparison, which may begin with a membership test; anything else. -/
inductive Shape where
  | single
  | sequence (items : List Shape)
  | starred (line : Nat) (inner : Shape)
  | comparison (line : Nat) (isMembership : Bool) (first : Shape)
  | other (line : Nat)

/-- An expression that was read, with the line it begins on and its shape. -/
structure Operand where
  tree : Expr
  line : Nat
  shape : Shape

/-- An expression that is no target. -/
def Operand.plain (tree : Expr) (line : Nat) : Operand := { tree, line, shape := .other line }

namespace Shape

def isSingle : Shape → Bool
  | single => true
  | _ => false

mutual

/-- Targets of an assignment or a loop. -/
def isTarget : Shape → Bool
  | single => true
  | sequence items => areTargets items
  | starred _ (starred _ _) => false
  | starred _ inner => isTarget inner
  | comparison _ _ _ => false
  | other _ => false

def areTargets : List Shape → Bool
  | [] => true
  | item :: items => isTarget item && areTargets items

end

mutual

/-- Targets of a deletion: nothing is starred. -/
def isDeletable : Shape → Bool
  | single => true
  | sequence items => areDeletable items
  | _ => false

def areDeletable : List Shape → Bool
  | [] => true
  | item :: items => isDeletable item && areDeletable items

end

/-- What a target is used for. -/
inductive Use where
  | assignment
  | deletion
  | loop
deriving DecidableEq

mutual

/-- The line of the first part that cannot be assigned to.  What looks like a membership test may
be the head of a loop, of which the part before `in` counts. -/
def faultLine? (use : Use) : Shape → Option Nat
  | single => none
  | sequence items => firstFaultLine? use items
  | starred line inner => if use = .deletion then some line else faultLine? use inner
  | comparison line isMembership first =>
    if use = .loop then if isMembership then faultLine? use first else none else some line
  | other line => some line

def firstFaultLine? (use : Use) : List Shape → Option Nat
  | [] => none
  | item :: items =>
    match faultLine? use item with
    | some line => some line
    | none => firstFaultLine? use items

end

end Shape

end ApiDocs.Source
