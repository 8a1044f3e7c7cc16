import ApiDocs.Files.Environment
import ApiDocs.Hooks.Basic
import ApiDocs.Site.Page
import ApiDocs.Site.Stylesheet

/-!
Rendering a project into a directory.  The directory is emptied first, unless that would remove
the working directory or an input.  Listeners insert fragments into pages and follow the run; a
page on which one of them fails is reported and left out, and the other pages are written.
-/

namespace ApiDocs.Site

/-- A computation of listeners over what they observe. -/
abbrev Listening (Observed Answer : Type) := ExceptT Failure (StateM Observed) Answer

/-- A listener of a hook point: it may answer with a fragment. -/
abbrev HookListener (Observed : Type) := Context → Listening Observed (Option String)

/-- The events of a run. -/
inductive RenderEvent where
  | renderBegin
  | renderEnd
  | pageBegin
  | pageEnd
deriving DecidableEq, Repr

namespace RenderEvent

def word : RenderEvent → String
  | renderBegin => "render_begin"
  | renderEnd => "render_end"
  | pageBegin => "page.begin"
  | pageEnd => "page.end"

def all : List RenderEvent := [renderBegin, renderEnd, pageBegin, pageEnd]

def ofWord? (word : String) : Option RenderEvent := all.find? fun event => event.word == word

end RenderEvent

/-- What an event is about: the whole run, or one page. -/
inductive Occasion where
  | run (project : Project) (out : Path)
  | page (page : Page)

/-- A listener of events; for a page it may answer with new contents. -/
abbrev EventListener (Observed : Type) := Occasion → Listening Observed (Option String)

/-- Options, diagnostics and listeners of rendering, with the files and what listeners have
observed so far. -/
structure Renderer (Observed : Type) where
  logger : Logger
  options : Options
  environment : Environment
  hooks : Hooks HookPoint (HookListener Observed)
  events : Hooks RenderEvent (EventListener Observed)
  disk : Disk
  observed : Observed

/-- A computation of the renderer; its state survives a failure. -/
abbrev Rendering (Observed Answer : Type) := ExceptT Failure (StateM (Renderer Observed)) Answer

variable {Observed : Type}

/-! ## Listeners -/

/-- A listener runs on what has been observed. -/
def listen {Answer : Type} (action : Listening Observed Answer) : Rendering Observed Answer := do
  let renderer ← get
  let (answer, observed) := action.run renderer.observed
  set { renderer with observed }
  match answer with
  | .ok answer => return answer
  | .error failure => throw failure

/-- The fragments that listeners insert at a hook point, one below the other. -/
def fragment (context : Context) (point : HookPoint) : Rendering Observed String := do
  let renderer ← get
  set { renderer with hooks := renderer.hooks.dropOnce point }
  let answers ← (renderer.hooks.snapshot point).mapM fun listener => listen (listener context)
  return stack (answers.filterMap id)

/-- An event of the whole run is announced. -/
def announceRun (event : RenderEvent) (project : Project) (out : Path) :
    Rendering Observed Unit := do
  let renderer ← get
  set { renderer with events := renderer.events.dropOnce event }
  for listener in renderer.events.snapshot event do
    discard (listen (listener (.run project out)))

/-- An event of a page is announced; every listener sees the contents that the ones before it
left. -/
def announcePage (event : RenderEvent) (page : Page) : Rendering Observed Page := do
  let renderer ← get
  set { renderer with events := renderer.events.dropOnce event }
  (renderer.events.snapshot event).foldlM (fun page listener => do
    let answer ← listen (listener (.page page))
    return { page with contents := answer.getD page.contents }) page

/-! ## Pages -/

/-- The text of a page.  What depends on the project alone comes first, so that a page that
cannot be linked asks no listener. -/
def renderPage (page : Page) : Rendering Observed String := do
  let renderer ← get
  let context : Context :=
    { page, options := renderer.options, directory := renderer.disk.workingDirectory }
  let content ← liftM (content context)
  let fragments ← HookPoint.all.mapM fun point => do
    let text ← fragment context point
    return (point, text)
  return compose context content fun point => (fragments.lookup point).getD ""

/-- A page with its contents, between the two events of the page. -/
def producePage (page : Page) : Rendering Observed Page := do
  let page ← announcePage .pageBegin page
  let contents ← renderPage page
  announcePage .pageEnd { page with contents }

/-! ## Files -/

/-- Changes the files. -/
def onDisk (change : Disk → Except FileFault Disk) : Rendering Observed Unit := do
  let renderer ← get
  match change renderer.disk with
  | .ok disk => set { renderer with disk }
  | .error fault => throw (.file fault)

def report (level : Level) (message : String) : Rendering Observed Unit :=
  modify fun renderer => { renderer with logger := renderer.logger.log level message }

/-- A text file is written in UTF-8. -/
def writeText (path : Path) (text : String) : Rendering Observed Unit :=
  onDisk fun disk => disk.write path (Text.encode text.toList)

/-- A page is written; on failure it is reported and nothing is written. -/
def writePage (out : Path) (page : Page) : Rendering Observed Unit := do
  let produced? ← tryCatch (some <$> producePage page) fun failure => do
    report .error s!"Failed to render {page.address}: {failure.message}"
    return none
  match produced? with
  | none => return ()
  | some produced =>
    let target := out.join (Path.ofString produced.address)
    onDisk fun disk => disk.makeDirectories target.parent true
    writeText target produced.contents

/-- The style sheet for highlighted code in a colour style, if there is such a style. -/
def highlightSheet? (style : String) : Option String :=
  if style ∈ Markup.highlightStyles then
    some ".highlight pre \x7b line-height: 125%; \x7d\n"
  else none

def writeAssets (out : Path) : Rendering Observed Unit := do
  let assets := out.child assetsAddress
  onDisk fun disk => disk.makeDirectories assets true
  writeText (assets.child "style.css") stylesheet
  let renderer ← get
  let style := renderer.options.textOf .highlightStyle
  match highlightSheet? style with
  | some sheet => writeText (assets.child "highlight.css") sheet
  | none =>
    report .warn s!"Unknown highlight style '{style}', using 'default'."
    writeText (assets.child "highlight.css") ((highlightSheet? "default").getD "")

/-! ## The output directory -/

/-- Why a directory is not emptied. -/
inductive Refusal where
  | holdsWorkingDirectory
  | holdsInput (input : String)
  | notDirectory

def Refusal.message (out : Path) : Refusal → String
  | holdsWorkingDirectory =>
    s!"Refusing to clean output directory {out.text}: it contains the working directory."
  | holdsInput input =>
    s!"Refusing to clean output directory {out.text}: it contains the input {input}."
  | notDirectory => s!"Output path {out.text} exists and is not a directory."

/-- The first input that a place is or holds.  What the null character is in is no path. -/
def heldInput? (environment : Environment) (disk : Disk) (place : List String) :
    List String → Except Failure (Option String)
  | [] => .ok none
  | input :: inputs =>
    match environment.expandHome? (Path.ofString input) with
    | none => .error (.homeless (Path.ofString input))
    | some path =>
      if path.text.toList.contains '\x00' then .error .nullInName
      else if place.isPrefixOf (disk.resolve path) then .ok (some input)
      else heldInput? environment disk place inputs

/-- Whether a directory may not be emptied, and why. -/
def refusal? (environment : Environment) (disk : Disk) (inputs : List String) (out : Path) :
    Except Failure (Option Refusal) := do
  if out.text.toList.contains '\x00' then throw .nullInName
  let place := disk.resolve out
  if place.isPrefixOf disk.workingDirectory then return some .holdsWorkingDirectory
  let held ← heldInput? environment disk place inputs
  match held with
  | some input => return some (.holdsInput input)
  | none =>
    match disk.tree.get? place with
    | some (.file _) => return some .notDirectory
    | _ => return none

/-- The output directory is removed and made anew, unless that is refused. -/
def prepareOutput (out : Path) : Rendering Observed Bool := do
  let renderer ← get
  let refused ← liftM
    (refusal? renderer.environment renderer.disk (renderer.options.textsOf .inputFiles) out)
  match refused with
  | some refusal =>
    report .error (refusal.message out)
    return false
  | none =>
    let place := renderer.disk.resolve out
    onDisk fun disk => .ok (disk.remove place)
    onDisk fun disk => disk.makeDirectories (Disk.pathOf place) false
    return true

/-- Every page of a project is rendered into a fresh directory. -/
def render (project : Project) (out : Path) : Rendering Observed Unit := do
  if ← prepareOutput out then
    announceRun .renderBegin project out
    writeAssets out
    for page in pages project do
      writePage out page
    announceRun .renderEnd project out

end ApiDocs.Site
