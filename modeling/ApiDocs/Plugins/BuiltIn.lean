import ApiDocs.Model.Hidden
import ApiDocs.Plugins.Analytics
import ApiDocs.Plugins.Plugin

/-!
The plugins that belong to every run.  Each does nothing until its setting, or its tag in a comment,
asks for it.
-/

namespace ApiDocs

/-- A footer is a text below every page, unless it is empty. -/
def footer (text : String) : String :=
  if text = "" then "" else "<footer class=\"site-footer\">" ++ Site.escape text ++ "</footer>"

/-- After all listeners of the usual order. -/
def footerOrder : Int := 10

namespace Plugin

variable {Observed : Type}

/-- Adds a fragment at a hook point. -/
def insertAt (point : Site.HookPoint) (order : Int) (fragment : Site.Context → String) :
    Loading Observed Unit :=
  modify fun listeners =>
    { listeners with
      hooks := listeners.hooks.on point (fun context => pure (some (fragment context))) order }

/-- Follows an event of the conversion. -/
def follow (event : Convert.ConvertEvent) (listener : Convert.ConvertListener Observed) :
    Loading Observed Unit :=
  modify fun listeners => { listeners with convert := listeners.convert.on event listener 0 }

def analytics : Plugin Observed where
  qualifiedName := "quire.plugins.analytics.AnalyticsPlugin"
  name := "analytics"
  description := "Google Analytics snippet driven by the ga_id and ga_site options"
  load := insertAt .bodyEnd 0 fun context =>
    Analytics.snippet (context.options.textOf .gaId) (context.options.textOf .gaSite)

def footer : Plugin Observed where
  qualifiedName := "quire.plugins.footer.FooterPlugin"
  name := "footer"
  description := "Footer text at the bottom of each page"
  load := insertAt .bodyEnd footerOrder fun context =>
    ApiDocs.footer (context.options.textOf .footer)

def hidden : Plugin Observed where
  qualifiedName := "quire.plugins.hidden.HiddenPlugin"
  name := "hidden"
  description := "Exclude declarations whose docstring has an @hidden line"
  load := follow .resolveBegin fun project _ =>
    modify fun (model, observed) => (model.removeHidden project, observed)

/-- The plugins that every run registers and loads, in this order. -/
def builtIn : List (Plugin Observed) := [analytics, footer, hidden]

end Plugin

end ApiDocs
