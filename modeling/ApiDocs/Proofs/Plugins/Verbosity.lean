import ApiDocs.Plugins.BuiltIn
import ApiDocs.Proofs.Hooks.DispatchOrder
import ApiDocs.Proofs.Site.Verbosity

/-!
# Plugins that ignore the verbosity

A plugin may add listeners of the hook points, and these may ask for the settings.  The built-in
plugins add none that asks which messages are written.
-/

namespace ApiDocs

variable {Observed : Type}

/-- What is loaded adds no listener that asks which messages are written. -/
def LoadsIgnoring (load : Loading Observed Unit) : Prop :=
  ∀ listeners : Listeners Observed, Site.IgnoresVerbosity listeners.hooks →
    Site.IgnoresVerbosity (load.run listeners).2.hooks

namespace Plugin

theorem insertAt_ignoring (point : Site.HookPoint) (order : Int) {text : Site.Context → String}
    (ignores : ∀ context : Site.Context,
      text { context with options := context.options.withoutVerbosity } = text context) :
    LoadsIgnoring (insertAt point order text : Loading Observed Unit) := by
  intro listeners before other record member
  have inserted : (((insertAt point order text).run listeners).2.hooks).registrations other =
      (listeners.hooks.on point (fun context => pure (some (text context))) order).registrations
        other :=
    rfl
  rw [inserted] at member
  rcases Hooks.mem_registrations_on member with ⟨_, isInserted⟩ | old
  · intro context
    simp only [isInserted, ignores context]
  · exact before other record old

theorem builtIn_ignoring :
    ∀ plugin ∈ (builtIn : List (Plugin Observed)), LoadsIgnoring plugin.load := by
  intro plugin member
  rw [builtIn, List.mem_cons, List.mem_cons, List.mem_singleton] at member
  rcases member with rfl | rfl | rfl
  · exact insertAt_ignoring _ _ fun _ => rfl
  · exact insertAt_ignoring _ _ fun _ => rfl
  · exact fun listeners ignores => ignores

end Plugin

/-! ## Registries -/

namespace Registry

theorem mem_put {name : String} {plugin : Plugin Observed}
    {entries : List (String × Plugin Observed)} {entry : String × Plugin Observed}
    (member : entry ∈ put name plugin entries) : entry ∈ entries ∨ entry.2 = plugin := by
  induction entries with
  | nil =>
      rw [put, List.mem_singleton] at member
      exact Or.inr (congrArg Prod.snd member)
  | cons head tail inductionHypothesis =>
      rw [put] at member
      split at member
      · rcases List.mem_cons.mp member with same | old
        · exact Or.inr (congrArg Prod.snd same)
        · exact Or.inl (List.mem_cons_of_mem head old)
      · rcases List.mem_cons.mp member with same | later
        · exact Or.inl (same ▸ List.mem_cons_self)
        · exact (inductionHypothesis later).imp_left (List.mem_cons_of_mem head)

theorem mem_register {registry registered : Registry Observed} {name : String}
    {plugin : Plugin Observed}
    (registers : registry.register name (.plugin plugin) = .ok registered)
    {entry : String × Plugin Observed} (member : entry ∈ registered.entries) :
    entry ∈ registry.entries ∨ entry.2 = plugin := by
  rw [register] at registers
  split at registers
  · cases registers
    exact mem_put member
  · split at registers
    · cases registers
      exact mem_put member
    · cases registers

/-- A registry comes to hold nothing but what has been registered. -/
theorem mem_registerAll {registry : Registry Observed} {plugins : List (Plugin Observed)}
    {entry : String × Plugin Observed} (member : entry ∈ (registry.registerAll plugins).1.entries) :
    entry ∈ registry.entries ∨ entry.2 ∈ plugins := by
  induction plugins generalizing registry with
  | nil => exact Or.inl member
  | cons plugin plugins inductionHypothesis =>
      rw [registerAll] at member
      split at member
      · exact Or.inl member
      · next registered registers =>
          rcases inductionHypothesis member with before | later
          · refine (mem_register registers before).imp_right fun same => ?_
            exact same ▸ List.mem_cons_self
          · exact Or.inr (List.mem_cons_of_mem plugin later)

end Registry

end ApiDocs
