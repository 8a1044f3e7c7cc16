import ApiDocs.Markup.Block
import ApiDocs.Model.Tree

/-!
The building blocks of pages: signatures, flags, sources, members, links and the sections that
list what a declaration encloses.  Every text of the model is escaped here or rendered as markup.
-/

namespace ApiDocs.Site

/-- A text for an attribute or between tags. -/
def escape (text : String) : String := String.ofList (Text.escapeAttribute text.toList)

/-- A comment or readme as markup. -/
def comment (text : String) : String := String.ofList (Markup.renderComment 0 text.toList)

/-- The first paragraph of a comment as markup. -/
def summary (text : String) : String := String.ofList (Markup.summary text.toList)

/-- The pieces that hold anything, one below the other. -/
def stack (pieces : List String) : String :=
  "\n".intercalate (pieces.filter fun piece => piece ≠ "")

/-! ## Members -/

/-- The keyword that introduces a declaration of a kind, with a blank after it. -/
def keywordOf (kind : Kind) : String :=
  match kind with
  | .classDefinition => "class "
  | .function => "def "
  | .method => "def "
  | _ => ""

/-- The flag that is shown in the signature and not with the others. -/
def asyncFlag : String := "async"

def signature (declaration : Declaration) : String :=
  let keyword := keywordOf declaration.kind
  let keyword :=
    if keyword ≠ "" && declaration.flags.contains asyncFlag then "async " ++ keyword else keyword
  let parameters := String.ofList (Markup.renderSignature declaration.signature.toList)
  s!"<div class=\"signature\">{escape keyword}<strong>{escape declaration.name}</strong>" ++
    parameters ++ "</div>"

def flags (declaration : Declaration) : String :=
  match declaration.flags.filter fun flag => flag ≠ asyncFlag with
  | [] => ""
  | words => "<span class=\"flags\">" ++ escape (" ".intercalate words) ++ "</span>"

def source (declaration : Declaration) : String :=
  match declaration.source with
  | none => ""
  | some place =>
    s!"<p class=\"source\">Defined in {escape place.file}:{place.line}</p>"

/-- A member with everything that is known of it. -/
def member (declaration : Declaration) : String :=
  let name := escape declaration.name
  let words := flags declaration
  let heading := if words = "" then name else name ++ " " ++ words
  stack
    [ s!"<section class=\"member\" id=\"{name}\">",
      s!"<h3>{heading}</h3>",
      signature declaration,
      comment declaration.comment,
      source declaration,
      "</section>" ]

/-! ## Lists -/

/-- An entry of a list: a link and the first paragraph of the comment. -/
def linkItem (declaration : Declaration) (address : String) : String :=
  let text := summary declaration.comment
  let description := if text = "" then "" else s!" <span>{text}</span>"
  s!"<li><a href=\"{escape address}\">{escape declaration.name}</a>{description}</li>"

/-- The sections of a module's page, in their order. -/
def moduleSections : List (String × Kind) :=
  [("Classes", .classDefinition), ("Functions", .function), ("Variables", .variableBinding)]

/-- The sections of a class's page, in their order. -/
def classSections : List (String × Kind) :=
  [("Properties", .property), ("Methods", .method)]

/-- The lines of a section; a section without members has none.  Classes are linked, everything
else is shown in full. -/
def sectionLines (place : Place) (link : Place → String) (title : String) (kind : Kind) :
    List String :=
  match place.childrenOfKind kind with
  | [] => []
  | members =>
    s!"<h2>{escape title}</h2>" ::
      if kind = .classDefinition then
        let items := members.map fun item => linkItem item.declaration (link item)
        ["<ul>\n" ++ "\n".intercalate items ++ "\n</ul>"]
      else members.map fun item => member item.declaration

def sections (place : Place) (table : List (String × Kind)) (link : Place → String) : String :=
  "\n".intercalate (table.flatMap fun entry => sectionLines place link entry.1 entry.2)

/-! ## Frame -/

/-- The parts of a page. -/
structure Frame where
  title : String
  headBegin : String
  headEnd : String
  bodyBegin : String
  bodyEnd : String
  header : String
  navigation : String
  content : String
  assets : String

/-- The lines of a page; an empty part is an empty line. -/
def Frame.lines (frame : Frame) : List String :=
  [ "<!DOCTYPE html>",
    "<html lang=\"en\">",
    "<head>",
    frame.headBegin,
    "<meta charset=\"utf-8\">",
    "<meta name=\"viewport\" content=\"width=device-width, initial-scale=1\">",
    s!"<title>{escape frame.title}</title>",
    s!"<link rel=\"stylesheet\" href=\"{escape frame.assets}/style.css\">",
    s!"<link rel=\"stylesheet\" href=\"{escape frame.assets}/highlight.css\">",
    frame.headEnd,
    "</head>",
    "<body>",
    frame.bodyBegin,
    frame.header,
    "<div class=\"container\">",
    frame.navigation,
    "<main class=\"content\">",
    frame.content,
    "</main>",
    "</div>",
    frame.bodyEnd,
    "</body>",
    "</html>" ]

/-- A page; empty parts leave no line behind. -/
def Frame.render (frame : Frame) : String := stack frame.lines ++ "\n"

end ApiDocs.Site
