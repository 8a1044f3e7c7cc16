/-!
Lists kept in ascending order of a key that need not tell their items apart, and the removal of
one item by identity.
-/

namespace ApiDocs

/-- The item is put before the first item of strictly greater order, at the end if there is
none, so items of equal order keep the order of their insertion. -/
def insertByOrder {Item : Type} (order : Item → Int) (item : Item) : List Item → List Item
  | [] => [item]
  | head :: tail =>
    if order item < order head then item :: head :: tail
    else head :: insertByOrder order item tail

/-- The first item that satisfies the test is removed; the answer says whether there was one. -/
def removeFirst {Item : Type} (test : Item → Bool) (items : List Item) : Bool × List Item :=
  (items.any test, items.eraseP test)

end ApiDocs
