import ApiDocs.Site.Address
import ApiDocs.Site.Fragment

/-!
The pages of a project: one index, and one page for each module and each class.  A page is made
of parts that depend on the project alone and of the fragments that listeners insert.
-/

namespace ApiDocs.Site

/-- The two sorts of pages. -/
inductive Template where
  | index
  | declaration
deriving DecidableEq, Repr

def Template.word : Template → String
  | index => "index"
  | declaration => "reflection"

/-- A page: its address, what it documents and, once it has been rendered, its contents. -/
structure Page where
  address : String
  place : Place
  project : Project
  template : Template
  contents : String

/-- The places in a page where listeners can insert markup, in the order in which they are
asked for. -/
inductive HookPoint where
  | headBegin
  | headEnd
  | bodyBegin
  | bodyEnd
  | navigationBegin
  | navigationEnd
  | contentBegin
  | contentEnd
deriving DecidableEq, Repr

namespace HookPoint

def word : HookPoint → String
  | headBegin => "head.begin"
  | headEnd => "head.end"
  | bodyBegin => "body.begin"
  | bodyEnd => "body.end"
  | navigationBegin => "navigation.begin"
  | navigationEnd => "navigation.end"
  | contentBegin => "content.begin"
  | contentEnd => "content.end"

def all : List HookPoint :=
  [headBegin, headEnd, bodyBegin, bodyEnd, navigationBegin, navigationEnd, contentBegin,
    contentEnd]

def ofWord? (word : String) : Option HookPoint := all.find? fun point => point.word == word

end HookPoint

/-- What listeners know of the page that is being rendered. -/
structure Context where
  page : Page
  options : Options
  directory : List String

namespace Context

/-- The link from the page to another address of the site. -/
def linkTo (context : Context) (target : String) : String :=
  between (absoluteComponents context.directory (directoryOf context.page.address))
    (absoluteComponents context.directory target)

/-- The link to the page of a module or class. -/
def linkToPlace (context : Context) (place : Place) : String :=
  context.linkTo ((chainAddress? place.chain).getD "")

end Context

/-! ## Pages of a project -/

/-- The page of a place, if it has one. -/
def pageOf? (project : Project) (place : Place) : Option Page :=
  (chainAddress? place.chain).map fun address =>
    { address, place, project, template := .declaration, contents := "" }

/-- The pages of a project: the index, then modules and classes, parents before children. -/
def pages (project : Project) : List Page :=
  { address := indexAddress, place := project.root, project, template := .index, contents := "" } ::
    project.descendants.filterMap (pageOf? project)

/-! ## Parts of a page -/

/-- The name of a project as pages show it. -/
def projectTitle (name : String) : String := if name = "" then "Documentation" else name

def header (context : Context) : String :=
  let name := escape (projectTitle context.page.project.name)
  s!"<header class=\"site-header\"><a href=\"{escape (context.linkTo indexAddress)}\">" ++
    name ++ "</a></header>"

/-- The position, from the outermost to the nearest, of the nearest module or project that a
place is or lies in. -/
def unitPosition? : List Declaration → List Nat → Option (List Nat)
  | declaration :: chain, position =>
    if declaration.kind = .moduleFile ∨ declaration.kind = .project then some position.reverse
    else unitPosition? chain (position.drop 1)
  | [], _ => none

/-- Whether a module of the project is the one that the page documents or that its declaration
lies in. -/
def isCurrent (context : Context) (item : Place) : Bool :=
  unitPosition? context.page.place.chain context.page.place.position == some item.position

def navigationItem (context : Context) (item : Place) : String :=
  let mark := if isCurrent context item then " class=\"current\"" else ""
  s!"<li{mark}><a href=\"{escape (context.linkToPlace item)}\">" ++
    escape item.declaration.name ++ "</a></li>"

/-- The list of all modules, with the fragments before and after it. -/
def navigation (context : Context) (before after : String) : String :=
  stack
    ("<nav class=\"site-nav\">" :: before :: "<ul>" ::
      (context.page.project.modules.map (navigationItem context) ++
        ["</ul>", after, "</nav>"]))

def indexContent (context : Context) : String :=
  let project := context.page.project
  let opening :=
    if project.readme = "" then s!"<h1>{escape (projectTitle project.name)}</h1>"
    else comment project.readme
  let list :=
    match project.modules with
    | [] => []
    | modules =>
      let items := modules.map fun item => linkItem item.declaration (context.linkToPlace item)
      ["<h2>Modules</h2>\n<ul>\n" ++ "\n".intercalate items ++ "\n</ul>"]
  "\n".intercalate (opening :: list)

/-- The links to what encloses a declaration, from the nearest to the outermost.  What has no page
cannot be linked. -/
def crumbs (context : Context) : List Declaration → Except Failure (List String)
  | [] => .ok []
  | declaration :: chain => do
    let isProject := declaration.kind = .project
    let address ←
      if isProject then pure indexAddress
      else
        match chainAddress? (declaration :: chain) with
        | some address => pure address
        | none => throw .noAddress
    let name := if isProject then projectTitle declaration.name else declaration.name
    let crumb := s!"<a href=\"{escape (context.linkTo address)}\">{escape name}</a>"
    let outer ← crumbs context chain
    return crumb :: outer

def breadcrumb (context : Context) : Except Failure String := do
  let links ← crumbs context context.page.place.ancestors
  let trail := " / ".intercalate links.reverse
  return s!"<p class=\"breadcrumb\">{trail}</p>"

def declarationContent (context : Context) : Except Failure String := do
  let place := context.page.place
  let declaration := place.declaration
  let trail ← breadcrumb context
  let table := if declaration.kind = .moduleFile then moduleSections else classSections
  return stack
    [ trail,
      s!"<h1><span class=\"kind\">{declaration.kind.word}</span> {escape declaration.name}</h1>",
      if declaration.kind = .classDefinition then signature declaration else "",
      comment declaration.comment,
      source declaration,
      sections place table context.linkToPlace ]

/-- What a page says, apart from the inserted fragments. -/
def content (context : Context) : Except Failure String :=
  match context.page.template with
  | .index => .ok (indexContent context)
  | .declaration => declarationContent context

def title (context : Context) : String :=
  let name := projectTitle context.page.project.name
  match context.page.template with
  | .index => name
  | .declaration => s!"{context.page.place.fullName} | {name}"

/-- The page with its content and the fragments of every hook point. -/
def compose (context : Context) (content : String) (fragments : HookPoint → String) : String :=
  Frame.render
    { title := title context
      headBegin := fragments .headBegin
      headEnd := fragments .headEnd
      bodyBegin := fragments .bodyBegin
      bodyEnd := fragments .bodyEnd
      header := header context
      navigation := navigation context (fragments .navigationBegin) (fragments .navigationEnd)
      content := stack [fragments .contentBegin, content, fragments .contentEnd]
      assets := context.linkTo assetsAddress }

end ApiDocs.Site
