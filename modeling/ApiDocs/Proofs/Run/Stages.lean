import ApiDocs.Proofs.Convert.Messages
import ApiDocs.Proofs.Site.Completion
import ApiDocs.Run.Application

/-!
# Stages of a run

While a run is prepared and its inputs are converted no file changes, and each logger only logs.
The logger that is replaced has not been told anything.
-/

namespace ApiDocs.Application

open ApiDocs.Computation

variable {Observed : Type}

/-- A stage before the rendering: the files are as before, and messages have been added. -/
structure Prepares (before after : Application Observed) : Prop where
  disk : after.disk = before.disk
  logs : before.logger.Extends after.logger

namespace Prepares

variable {before middle after : Application Observed}

theorem refl (application : Application Observed) : Prepares application application :=
  ⟨rfl, Logger.Extends.refl application.logger⟩

theorem trans (first : Prepares before middle) (second : Prepares middle after) :
    Prepares before after :=
  ⟨second.disk.trans first.disk, first.logs.trans second.logs⟩

end Prepares

/-- Plugins are loaded: the settings and the surroundings are as before, and messages have been
added. -/
structure Equips (before after : Application Observed) : Prop where
  settings : after.options = before.options
  prepares : Prepares before after

namespace Equips

variable {before middle after : Application Observed}

theorem refl (application : Application Observed) : Equips application application :=
  ⟨rfl, Prepares.refl application⟩

theorem trans (first : Equips before middle) (second : Equips middle after) :
    Equips before after :=
  ⟨second.settings.trans first.settings, first.prepares.trans second.prepares⟩

end Equips

section Ends

variable {application : Application Observed}

theorem report_prepares (level : Level) (message : String) :
    Ends Prepares (report level message) application :=
  ends_modify ⟨rfl, Logger.Extends.log application.logger level message⟩

/-! ## Settings -/

/-- The configuration file: the given one or, if none is given, one that is found. -/
def configPath? (disk : Disk) : Option String → Option Path
  | none => ConfigFile.find? disk ""
  | some "" => ConfigFile.find? disk ""
  | some path => some (Path.ofString path)

/-- The first part of the preparation: the settings of the configuration file and, over them, the
given ones.  The problems with them are returned. -/
def settle (given : List (Value × Value)) (config : Option String) :
    Running Observed (List String) := do
  let application ← get
  let (values, problems) ← configured (configPath? application.disk config)
  let refused ← makeSettings (mergeValues values given)
  return problems ++ refused

/-- After the settings the logger is replaced; only then are their problems reported. -/
theorem bootstrap_eq (given : List (Value × Value)) (config : Option String) :
    (bootstrap given config : Running Observed Unit) = (do
      let problems ← settle given config
      replaceLogger
      for problem in problems do
        report .error problem
      loadPlugins) := by
  simp only [bootstrap, settle, bind_assoc, pure_bind]
  rfl

/-- Neither the files nor the logger change. -/
def Quiet (before after : Application Observed) : Prop :=
  after.disk = before.disk ∧ after.logger = before.logger

theorem Quiet.refl (state : Application Observed) : Quiet state state := ⟨rfl, rfl⟩

theorem Quiet.trans {first second third : Application Observed} (before : Quiet first second)
    (after : Quiet second third) : Quiet first third :=
  ⟨after.1.trans before.1, after.2.trans before.2⟩

theorem report_equips (level : Level) (message : String) :
    Ends Equips (report level message) application :=
  ⟨rfl, report_prepares level message⟩

theorem loadPlugin_equips (name : String) :
    Ends Equips (loadPlugin name) application := by
  apply ends_get_bind
  dsimp only
  split
  · refine ends_bind Equips.trans (ends_pure Equips.refl _) fun returns => ?_
    obtain ⟨rfl, rfl⟩ := returns_pure returns
    exact report_equips _ _
  · refine ends_bind Equips.trans (ends_set ⟨rfl, rfl, Logger.Extends.refl _⟩) fun _ => ?_
    refine ends_bind Equips.trans (ends_pure Equips.refl _) fun _ => ?_
    split
    · exact report_equips _ _
    · exact ends_bind Equips.trans (ends_modify ⟨rfl, rfl, Logger.Extends.refl _⟩) fun _ =>
        report_equips _ _

theorem loadPlugins_equips : Ends Equips loadPlugins application := by
  apply ends_get_bind
  refine ends_bind Equips.trans (ends_set ⟨rfl, rfl, Logger.Extends.refl _⟩) fun _ => ?_
  split
  · exact ends_throw Equips.refl _
  · refine ends_bind Equips.trans ?_ fun _ => ends_pure Equips.refl _
    refine ends_forIn Equips.refl Equips.trans fun name _ state => ?_
    apply ends_get_bind
    split
    · exact ends_bind Equips.trans (loadPlugin_equips name) fun _ => ends_pure Equips.refl _
    · exact ends_pure Equips.refl _

/-! ## Stages -/

/-- The logger that settings ask for, before it is told anything. -/
def freshLogger (options : Options) : Logger :=
  .ofName (options.textOf .logger) ((Level.ofWord? (options.textOf .logLevel)).getD .info)

/-- After an error a conversion answers with no project. -/
theorem convert_returns
    {project : Nat} {after : Application Observed}
    (returns : Returns convert application (some project) after) :
    after.logger.hasErrors = false := by
  have returns := returns_get_bind returns
  obtain ⟨_, _, _, returns⟩ := returns_bind returns
  have returns := returns_get_bind returns
  have returns := returns_set_bind returns
  split at returns
  · obtain ⟨_, _, _, returns⟩ := returns_bind returns
    cases (returns_pure returns).1
  · have returns := returns_get_bind returns
    obtain ⟨answered, rfl⟩ := returns_pure returns
    rw [Bool.eq_false_iff]
    intro errors
    rw [if_pos errors] at answered
    cases answered

end Ends

end ApiDocs.Application
