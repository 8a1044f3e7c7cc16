/-!
Why something is not registered as a plugin.
-/

namespace ApiDocs

inductive RegistryFault where
  /-- What was given is no plugin. -/
  | notPlugin (name : String)
  /-- Another plugin has the name. -/
  | taken (name owner : String)
deriving DecidableEq, Repr

def RegistryFault.message : RegistryFault → String
  | notPlugin name => s!"{name} must be a subclass of BasePlugin"
  | taken name owner => s!"Plugin name '{name}' is already used by {owner}"

end ApiDocs
