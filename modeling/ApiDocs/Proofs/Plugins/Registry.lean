import ApiDocs.Plugins.BuiltIn

/-!
# Registered plugins

When plugins can be registered, and which plugin a registry gives for a name afterwards: the one
that was registered last under it, and for other names the same one as before.
-/

namespace ApiDocs.Registry

variable {Observed : Type}

/-! ## One plugin -/

theorem lookup_cons_eq (head : String × Plugin Observed) (tail : List (String × Plugin Observed))
    (name : String) :
    (head :: tail).lookup name = if name = head.1 then some head.2 else tail.lookup name := by
  by_cases same : name = head.1
  · rw [List.lookup_cons, beq_iff_eq.mpr same, if_pos same]
  · rw [List.lookup_cons, beq_eq_false_iff_ne.mpr same, if_neg same]

theorem lookup_put (name other : String) (plugin : Plugin Observed)
    (entries : List (String × Plugin Observed)) :
    (put name plugin entries).lookup other =
      if other = name then some plugin else entries.lookup other := by
  induction entries with
  | nil => exact lookup_cons_eq (name, plugin) [] other
  | cons head tail inductionHypothesis =>
      rw [put]
      by_cases isKey : head.1 = name
      · rw [if_pos isKey, lookup_cons_eq, lookup_cons_eq, isKey]
        split <;> rfl
      · rw [if_neg isKey, lookup_cons_eq, lookup_cons_eq, inductionHypothesis]
        by_cases same : other = name
        · rw [if_neg (same ▸ Ne.symm isKey), if_pos same, if_pos same]
        · rw [if_neg same, if_neg same]

/-- What can be registered: a plugin whose name is free, or held by a plugin that it is taken for. -/
def Admits (registry : Registry Observed) (plugin : Plugin Observed) : Prop :=
  ∀ owner, registry.find? plugin.name = some owner → owner.qualifiedName = plugin.qualifiedName

theorem register_of_admits {registry : Registry Observed} {plugin : Plugin Observed}
    (admits : registry.Admits plugin) :
    registry.register plugin.name (.plugin plugin) =
      .ok { entries := put plugin.name plugin registry.entries } := by
  rw [register]
  cases found : registry.find? plugin.name with
  | none => rfl
  | some owner => exact if_pos (admits owner found)

theorem admits_of_register {registry registered : Registry Observed} {plugin : Plugin Observed}
    (registers : registry.register plugin.name (.plugin plugin) = .ok registered) :
    registry.Admits plugin := by
  intro owner found
  rw [register, found] at registers
  by_cases same : owner.qualifiedName = plugin.qualifiedName
  · exact same
  · simp only [if_neg same] at registers
    cases registers

/-! ## Several plugins -/

/-- A registry after plugins have been registered. -/
def registered (registry : Registry Observed) (plugins : List (Plugin Observed)) :
    Registry Observed :=
  { entries := plugins.foldl (fun entries plugin => put plugin.name plugin entries)
      registry.entries }

theorem find?_put_of_ne (registry : Registry Observed) {name other : String}
    (plugin : Plugin Observed) (different : other ≠ name) :
    find? { entries := put name plugin registry.entries } other = registry.find? other := by
  rw [find?, lookup_put, if_neg different, find?]

theorem registerAll_of_admits {registry : Registry Observed} {plugins : List (Plugin Observed)}
    (distinct : (plugins.map Plugin.name).Nodup)
    (admits : ∀ plugin ∈ plugins, registry.Admits plugin) :
    registry.registerAll plugins = (registry.registered plugins, none) := by
  induction plugins generalizing registry with
  | nil => rfl
  | cons plugin plugins inductionHypothesis =>
      obtain ⟨isNew, distinctLater⟩ := List.nodup_cons.mp distinct
      obtain ⟨admitsFirst, admitsLater⟩ := List.forall_mem_cons.mp admits
      rw [registerAll, register_of_admits admitsFirst]
      refine inductionHypothesis distinctLater fun other member owner found => ?_
      have different : other.name ≠ plugin.name := fun same =>
        isNew (same ▸ List.mem_map_of_mem member)
      rw [find?_put_of_ne registry plugin different] at found
      exact admitsLater other member owner found

theorem admits_of_registerAll {registry : Registry Observed} {plugins : List (Plugin Observed)}
    (distinct : (plugins.map Plugin.name).Nodup)
    (registers : (registry.registerAll plugins).2 = none) :
    ∀ plugin ∈ plugins, registry.Admits plugin := by
  induction plugins generalizing registry with
  | nil => exact List.forall_mem_nil _
  | cons plugin plugins inductionHypothesis =>
      obtain ⟨isNew, distinctLater⟩ := List.nodup_cons.mp distinct
      rw [registerAll] at registers
      split at registers
      · cases registers
      · rename_i registered registers'
        have admitsFirst := admits_of_register registers'
        rw [register_of_admits admitsFirst] at registers'
        cases registers'
        refine List.forall_mem_cons.mpr ⟨admitsFirst, fun other member owner found => ?_⟩
        have different : other.name ≠ plugin.name := fun same =>
          isNew (same ▸ List.mem_map_of_mem member)
        refine inductionHypothesis distinctLater registers other member owner ?_
        rw [find?_put_of_ne registry plugin different, found]

theorem find?_registered_of_ne {registry : Registry Observed} {plugins : List (Plugin Observed)}
    {name : String} (isElse : name ∉ plugins.map Plugin.name) :
    (registry.registered plugins).find? name = registry.find? name := by
  induction plugins generalizing registry with
  | nil => rfl
  | cons plugin plugins inductionHypothesis =>
      rw [List.map_cons, List.mem_cons, not_or] at isElse
      obtain ⟨different, isElseLater⟩ := isElse
      rw [← find?_put_of_ne registry plugin different]
      exact inductionHypothesis isElseLater

theorem find?_registered_of_mem {registry : Registry Observed} {plugins : List (Plugin Observed)}
    (distinct : (plugins.map Plugin.name).Nodup) {plugin : Plugin Observed}
    (member : plugin ∈ plugins) :
    (registry.registered plugins).find? plugin.name = some plugin := by
  induction plugins generalizing registry with
  | nil => cases member
  | cons first plugins inductionHypothesis =>
      obtain ⟨isNew, distinctLater⟩ := List.nodup_cons.mp distinct
      rcases List.mem_cons.mp member with rfl | later
      · have put : find? { entries := put plugin.name plugin registry.entries } plugin.name =
            some plugin := by
          rw [find?, lookup_put, if_pos rfl]
        exact (find?_registered_of_ne isNew).trans put
      · exact inductionHypothesis distinctLater later

/-- For other names nothing changes, also where not all plugins can be registered. -/
theorem find?_registerAll_of_ne {registry : Registry Observed} {plugins : List (Plugin Observed)}
    {name : String} (isElse : name ∉ plugins.map Plugin.name) :
    (registry.registerAll plugins).1.find? name = registry.find? name := by
  induction plugins generalizing registry with
  | nil => rfl
  | cons plugin plugins inductionHypothesis =>
      rw [List.map_cons, List.mem_cons, not_or] at isElse
      obtain ⟨different, isElseLater⟩ := isElse
      rw [registerAll]
      split
      · rfl
      · rename_i registered registers
        rw [inductionHypothesis isElseLater]
        rw [register_of_admits (admits_of_register registers)] at registers
        cases registers
        exact find?_put_of_ne registry plugin different

/-- Registering plugins again gives what registering them once gives. -/
theorem find?_registered_registerAll (registry : Registry Observed)
    {plugins : List (Plugin Observed)} (distinct : (plugins.map Plugin.name).Nodup)
    (name : String) :
    ((registry.registerAll plugins).1.registered plugins).find? name =
      (registry.registered plugins).find? name := by
  by_cases isTheir : name ∈ plugins.map Plugin.name
  · obtain ⟨plugin, member, rfl⟩ := List.mem_map.mp isTheir
    rw [find?_registered_of_mem distinct member, find?_registered_of_mem distinct member]
  · rw [find?_registered_of_ne isTheir, find?_registered_of_ne isTheir,
      find?_registerAll_of_ne isTheir]

theorem admits_registered {registry : Registry Observed} {plugins : List (Plugin Observed)}
    (distinct : (plugins.map Plugin.name).Nodup) :
    ∀ plugin ∈ plugins, (registry.registered plugins).Admits plugin := by
  intro plugin member owner found
  rw [find?_registered_of_mem distinct member] at found
  cases found
  rfl

end ApiDocs.Registry
