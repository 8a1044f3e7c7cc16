import ApiDocs.Settings.Options
import ApiDocs.Text.Escape

/-!
The script that counts visits.  The identity of the site's account is a setting; without it there
is no script.
-/

namespace ApiDocs.Analytics

/-- The setting that leaves the domain of the cookie open. -/
def automaticSite : String := "auto"

/-- The configuration of the script: the domain of its cookie, unless that is left open. -/
def configuration (site : String) : String :=
  if site = automaticSite then "\x7b\x7d"
  else "\x7b\"cookie_domain\": " ++ String.ofList (Text.scriptLiteral site.toList) ++ "\x7d"

/-- The script for an account. -/
def snippet (account site : String) : String :=
  let query := String.ofList (Text.escapeAttribute (Text.percentEncode account.toList))
  let literal := String.ofList (Text.scriptLiteral account.toList)
  if account = "" then ""
  else
    "\n".intercalate
      [ "<script async src=\"https://www.googletagmanager.com/gtag/js?id=" ++ query ++
          "\"></script>",
        "<script>",
        "window.dataLayer = window.dataLayer || [];",
        "function gtag() \x7b dataLayer.push(arguments); \x7d",
        "gtag(\"js\", new Date());",
        "gtag(\"config\", " ++ literal ++ ", " ++ configuration site ++ ");",
        "</script>" ]

end ApiDocs.Analytics
