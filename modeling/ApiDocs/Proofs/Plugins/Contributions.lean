import ApiDocs.Plugins.BuiltIn
import ApiDocs.Proofs.Ordered

/-!
# What plugins contribute

A plugin that does nothing but register listeners contributes the same to every run that loads it.
The listeners of an event are the stable sort of all that has been contributed for it.
-/

namespace ApiDocs

/-! ## Registering several listeners -/

namespace Hooks

variable {Event Listener : Type} [DecidableEq Event]

def registerAll (hooks : Hooks Event Listener) (additions : List (Event × Registration Listener)) :
    Hooks Event Listener :=
  additions.foldl (fun hooks addition => hooks.register addition.1 addition.2) hooks

/-- The registrations among additions that are made for one event. -/
def additionsFor (event : Event) (additions : List (Event × Registration Listener)) :
    List (Registration Listener) :=
  (additions.filter fun addition => addition.1 = event).map Prod.snd

theorem additionsFor_cons (event : Event) (addition : Event × Registration Listener)
    (additions : List (Event × Registration Listener)) :
    additionsFor event (addition :: additions) =
      (if addition.1 = event then [addition.2] else []) ++ additionsFor event additions := by
  by_cases same : addition.1 = event <;> simp [additionsFor, same]

theorem isStableSort_registerAll {hooks : Hooks Event Listener} {event : Event}
    {earlier : List (Registration Listener)}
    (isSort : IsStableSort Registration.order earlier (hooks.registrations event))
    (additions : List (Event × Registration Listener)) :
    IsStableSort Registration.order (earlier ++ additionsFor event additions)
      ((hooks.registerAll additions).registrations event) := by
  induction additions generalizing hooks earlier with
  | nil => exact (List.append_nil earlier).symm ▸ isSort
  | cons addition additions inductionHypothesis =>
      rw [additionsFor_cons, ← List.append_assoc]
      refine @inductionHypothesis (hooks.register addition.1 addition.2) _ ?_
      by_cases same : addition.1 = event
      · rw [if_pos same, ← same, register, registrations_update_self]
        exact (same ▸ isSort).insert addition.2
      · rw [if_neg same, List.append_nil, register,
          registrations_update_of_ne hooks _ (Ne.symm same)]
        exact isSort

end Hooks

/-! ## Contributions -/

variable {Observed : Type}

/-- The listeners that a plugin registers, in the order in which it does. -/
structure Contribution (Observed : Type) where
  convert : List (Convert.ConvertEvent × Registration (Convert.ConvertListener Observed))
  hooks : List (Site.HookPoint × Registration (Site.HookListener Observed))
  events : List (Site.RenderEvent × Registration (Site.EventListener Observed))

def Listeners.extend (listeners : Listeners Observed) (contribution : Contribution Observed) :
    Listeners Observed :=
  { convert := listeners.convert.registerAll contribution.convert
    hooks := listeners.hooks.registerAll contribution.hooks
    events := listeners.events.registerAll contribution.events }

/-- The contributions of several plugins, one after the other. -/
def Contribution.join (contributions : List (Contribution Observed)) : Contribution Observed where
  convert := contributions.flatMap Contribution.convert
  hooks := contributions.flatMap Contribution.hooks
  events := contributions.flatMap Contribution.events

theorem Listeners.extend_join (listeners : Listeners Observed)
    (contributions : List (Contribution Observed)) :
    listeners.extend (.join contributions) = contributions.foldl Listeners.extend listeners := by
  induction contributions generalizing listeners with
  | nil => rfl
  | cons contribution contributions inductionHypothesis =>
      rw [List.foldl_cons, ← inductionHypothesis]
      simp only [Listeners.extend, Contribution.join, Hooks.registerAll, List.flatMap_cons,
        List.foldl_append]

/-! ## Built-in plugins -/

namespace Plugin

def analyticsRegistration : Registration (Site.HookListener Observed) where
  listener context :=
    pure (some (Analytics.snippet (context.options.textOf .gaId) (context.options.textOf .gaSite)))
  order := 0
  once := false

def footerRegistration : Registration (Site.HookListener Observed) where
  listener context := pure (some (ApiDocs.footer (context.options.textOf .footer)))
  order := footerOrder
  once := false

def hiddenRegistration : Registration (Convert.ConvertListener Observed) where
  listener project _ := modify fun (model, observed) => (model.removeHidden project, observed)
  order := 0
  once := false

/-- What the built-in plugins contribute together. -/
def builtInContribution : Contribution Observed where
  convert := [(.resolveBegin, hiddenRegistration)]
  hooks := [(.bodyEnd, analyticsRegistration), (.bodyEnd, footerRegistration)]
  events := []

/-- Each built-in plugin is loaded without failure, whatever is registered already. -/
theorem builtIn_loads (listeners : Listeners Observed) :
    ∀ plugin ∈ (builtIn : List (Plugin Observed)), (plugin.load.run listeners).1 = .ok () := by
  intro plugin member
  rw [builtIn, List.mem_cons, List.mem_cons, List.mem_singleton] at member
  rcases member with rfl | rfl | rfl <;> rfl

theorem builtIn_contributes (listeners : Listeners Observed) :
    (builtIn : List (Plugin Observed)).foldl
        (fun listeners plugin => (plugin.load.run listeners).2) listeners =
      listeners.extend builtInContribution :=
  rfl

theorem isStableSort_builtIn_bodyEnd :
    IsStableSort Registration.order
      ([analyticsRegistration, footerRegistration] :
        List (Registration (Site.HookListener Observed)))
      ((Listeners.empty.extend builtInContribution).hooks.registrations .bodyEnd) :=
  IsStableSort.nil.insertAll [analyticsRegistration, footerRegistration]

theorem isStableSort_builtIn_resolveBegin :
    IsStableSort Registration.order
      ([hiddenRegistration] : List (Registration (Convert.ConvertListener Observed)))
      ((Listeners.empty.extend builtInContribution).convert.registrations .resolveBegin) :=
  IsStableSort.nil.insertAll [hiddenRegistration]

theorem builtIn_names_nodup : ((builtIn : List (Plugin Observed)).map Plugin.name).Nodup := by
  have names : (builtIn : List (Plugin Observed)).map Plugin.name =
      ["analytics", "footer", "hidden"] := rfl
  rw [names]
  decide

end Plugin

end ApiDocs
