/-!
Identities of listeners.  Two listeners are the same when they are one object, or when both are
bound methods of one object and one function; being equal in any other sense does not count.
-/

namespace ApiDocs

/-- What identifies a listener. -/
inductive Handle (Identity : Type) where
  /-- An object that is called itself. -/
  | object (identity : Identity)
  /-- A function bound to an object; binding it again gives the same listener. -/
  | method (receiver : Identity) (function : String)
deriving DecidableEq, Repr

end ApiDocs
