import ApiDocs.Convert.Converter
import ApiDocs.Site.Render

/-!
Plugins and their registry.  A plugin adds listeners to a run; the registry knows plugins by name
and keeps the name of each for itself.
-/

namespace ApiDocs

/-- The listeners of a run: those of the conversion, of the hook points and of rendering. -/
structure Listeners (Observed : Type) where
  convert : Hooks Convert.ConvertEvent (Convert.ConvertListener Observed)
  hooks : Hooks Site.HookPoint (Site.HookListener Observed)
  events : Hooks Site.RenderEvent (Site.EventListener Observed)

def Listeners.empty {Observed : Type} : Listeners Observed :=
  { convert := .empty, hooks := .empty, events := .empty }

/-- Adds listeners to a run.  What was added before a failure stays. -/
abbrev Loading (Observed Answer : Type) :=
  ExceptT Failure (StateM (Listeners Observed)) Answer

/-- A plugin.  Two plugins of one qualified name are the same one, read again. -/
structure Plugin (Observed : Type) where
  qualifiedName : String
  name : String
  description : String
  load : Loading Observed Unit

/-- What may be given to the registry: a plugin, or something of another kind. -/
inductive Candidate (Observed : Type) where
  | plugin (plugin : Plugin Observed)
  | other (name : String)

/-- The registered plugins by name. -/
structure Registry (Observed : Type) where
  entries : List (String × Plugin Observed)

namespace Registry

variable {Observed : Type}

def empty : Registry Observed := { entries := [] }

def find? (registry : Registry Observed) (name : String) : Option (Plugin Observed) :=
  registry.entries.lookup name

/-- The plugin of a name is set; one that stands there already is replaced where it stands. -/
def put (name : String) (plugin : Plugin Observed) :
    List (String × Plugin Observed) → List (String × Plugin Observed)
  | [] => [(name, plugin)]
  | head :: tail => if head.1 = name then (name, plugin) :: tail else head :: put name plugin tail

/-- A plugin is registered under a name, unless another one has the name. -/
def register (registry : Registry Observed) (name : String) (candidate : Candidate Observed) :
    Except RegistryFault (Registry Observed) :=
  match candidate with
  | .other kind => .error (.notPlugin kind)
  | .plugin plugin =>
    match registry.find? name with
    | none => .ok { entries := put name plugin registry.entries }
    | some owner =>
      if owner.qualifiedName = plugin.qualifiedName then
        .ok { entries := put name plugin registry.entries }
      else .error (.taken name owner.qualifiedName)

/-- Plugins are registered one after the other, each under its own name, up to the first whose name
is taken. -/
def registerAll (registry : Registry Observed) :
    List (Plugin Observed) → Registry Observed × Option RegistryFault
  | [] => (registry, none)
  | plugin :: plugins =>
    match registry.register plugin.name (.plugin plugin) with
    | .error fault => (registry, some fault)
    | .ok registry => registerAll registry plugins

end Registry

end ApiDocs
