import ApiDocs.Convert.Converter
import ApiDocs.Proofs.Computation
import ApiDocs.Proofs.Log.Messages

/-!
# What a conversion logs

However a conversion ends, and whatever its listeners do, it only adds messages: an error that it
has reported is still counted afterwards.
-/

namespace ApiDocs.Convert

open ApiDocs.Computation

variable {Observed : Type}

/-- Messages have been added. -/
def Logs (before after : Converter Observed) : Prop :=
  before.logger.Extends after.logger

namespace Logs

variable {before middle after : Converter Observed}

theorem refl (converter : Converter Observed) : Logs converter converter :=
  Logger.Extends.refl converter.logger

theorem trans (first : Logs before middle) (second : Logs middle after) : Logs before after :=
  Logger.Extends.trans first second

end Logs

variable {converter : Converter Observed}

/-! ## Events -/

theorem notify_logs
    (listener : ConvertListener Observed) (key : Nat) (origin : Option Origin) :
    Ends Logs (notify listener key origin) converter := by
  apply ends_get_bind
  refine ends_bind Logs.trans (ends_set (Logs.refl converter)) fun _ => ?_
  split
  · exact ends_pure Logs.refl _
  · exact ends_throw Logs.refl _

theorem announce_logs (event : ConvertEvent) (key : Nat) (origin : Option Origin) :
    Ends Logs (announce event key origin) converter := by
  apply ends_get_bind
  refine ends_bind Logs.trans (ends_set (Logs.refl converter)) fun _ => ?_
  refine ends_bind Logs.trans ?_ fun _ => ends_pure Logs.refl _
  refine ends_forIn Logs.refl Logs.trans fun listener _ state => ?_
  exact ends_bind Logs.trans (notify_logs listener key origin) fun _ => ends_pure Logs.refl _

theorem attach_logs (parent : Nat) (declaration : Declaration) (origin : Origin) :
    Ends Logs (attach parent declaration origin) converter := by
  apply ends_get_bind
  refine ends_bind Logs.trans (ends_set (Logs.refl converter)) fun _ => ?_
  exact ends_bind Logs.trans (announce_logs _ _ _) fun _ => ends_pure Logs.refl _

mutual

theorem attachEntry_logs (parent : Nat) (entry : Entry) (converter : Converter Observed) :
    Ends Logs (attachEntry parent entry) converter := by
  match entry with
  | .failed failure =>
      rw [attachEntry]
      exact ends_throw Logs.refl failure
  | .declared declaration origin members =>
      rw [attachEntry]
      exact ends_bind Logs.trans (attach_logs parent declaration origin) fun {key state} _ =>
        attachEntries_logs key members state

theorem attachEntries_logs (parent : Nat) (entries : List Entry) (converter : Converter Observed) :
    Ends Logs (attachEntries parent entries) converter := by
  match entries with
  | [] =>
      rw [attachEntries]
      exact ends_pure Logs.refl ()
  | entry :: entries =>
      rw [attachEntries]
      exact ends_bind Logs.trans (attachEntry_logs parent entry converter) fun {_ state} _ =>
        attachEntries_logs parent entries state

end

/-! ## Files -/

end ApiDocs.Convert
