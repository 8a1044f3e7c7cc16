/-!
The style sheet of the documentation pages.
-/

namespace ApiDocs.Site

/-- The lines of the style sheet. -/
def stylesheetLines : List String := [
  "* \x7b box-sizing: border-box; \x7d",
  "body \x7b",
  "  margin: 0;",
  "  font-family: -apple-system, \"Segoe UI\", Helvetica, Arial, sans-serif;",
  "  color: #1f2328;",
  "  background: #ffffff;",
  "  line-height: 1.5;",
  "\x7d",
  "a \x7b color: #0969da; text-decoration: none; \x7d",
  "a:hover \x7b text-decoration: underline; \x7d",
  "code, pre \x7b font-family: \"SFMono-Regular\", Consolas, \"Liberation Mono\", monospace; \x7d",
  "code \x7b background: #f3f4f6; padding: 0.1em 0.3em; border-radius: 4px; \x7d",
  ".site-header \x7b",
  "  padding: 0.8rem 1.5rem;",
  "  background: #0c0c10;",
  "  font-weight: 600;",
  "\x7d",
  ".site-header a \x7b color: #00d4e5; \x7d",
  ".container \x7b display: flex; max-width: 1200px; margin: 0 auto; \x7d",
  ".site-nav \x7b width: 260px; padding: 1.5rem 1rem; border-right: 1px solid #d0d7de; \x7d",
  ".site-nav ul \x7b list-style: none; margin: 0; padding: 0; \x7d",
  ".site-nav li \x7b margin: 0.2rem 0; \x7d",
  ".site-nav li.current > a \x7b font-weight: 600; \x7d",
  ".content \x7b flex: 1; padding: 1.5rem 2rem; min-width: 0; \x7d",
  ".breadcrumb \x7b font-size: 0.85rem; color: #57606a; \x7d",
  ".kind \x7b font-size: 0.75rem; text-transform: uppercase; color: #57606a; \x7d",
  ".member \x7b border-top: 1px solid #d0d7de; padding: 0.8rem 0; \x7d",
  ".member h3 \x7b margin: 0 0 0.3rem; \x7d",
  ".signature \x7b",
  "  font-family: \"SFMono-Regular\", Consolas, \"Liberation Mono\", monospace;",
  "  background: #f6f8fa;",
  "  padding: 0.4rem 0.6rem;",
  "  border-radius: 6px;",
  "  overflow-x: auto;",
  "\x7d",
  ".flags \x7b font-size: 0.75rem; color: #8250df; \x7d",
  ".source \x7b font-size: 0.8rem; color: #57606a; \x7d",
  ".highlight pre \x7b padding: 0.6rem; border-radius: 6px; overflow-x: auto; \x7d",
  ".site-footer \x7b text-align: center; font-size: 0.8rem; color: #57606a; padding: 1rem; \x7d"]

/-- The style sheet. -/
def stylesheet : String := String.join (stylesheetLines.map fun line => line ++ "\n")

end ApiDocs.Site
