import ApiDocs.Proofs.Markup.Written
import ApiDocs.Proofs.Site.Links

/-!
# Texts of a project as markup

No text of a project is read as markup of its pages: a page that listeners add nothing to is plain
text and tags of a fixed set, whatever the names, comments, signatures, flags and sources are.
-/

namespace ApiDocs.Site

open ApiDocs.Text ApiDocs.Markup

/-- The elements that pages are made of. -/
def elementNames : List String :=
  ["html", "head", "meta", "title", "link", "body", "header", "nav", "div", "main", "a", "section",
    "h1", "h2", "h3", "h4", "h5", "h6", "ul", "li", "p", "pre", "span", "strong", "code"]

/-- The names of tags of pages, opening and closing ones. -/
def tagNames : List String :=
  "!DOCTYPE" :: elementNames ++ elementNames.map fun name => "/" ++ name

def attributeNames : List String :=
  ["html", "lang", "charset", "name", "content", "rel", "href", "class", "id"]

/-- A tag of a page has a name and attributes of the fixed set, wherever its links lead. -/
theorem PageTag.names {linked : String → Prop} {tag : Tag} (isTag : PageTag linked tag) :
    tag.name ∈ tagNames ∧ ∀ pair ∈ tag.attributes, pair.1 ∈ attributeNames := by
  cases isTag with
  | fixed member =>
      have fixed : ∀ tag ∈ fixedTags,
          tag.name ∈ tagNames ∧ ∀ pair ∈ tag.attributes, pair.1 ∈ attributeNames := by
        decide +kernel
      exact fixed tag member
  | member name => simp [tagNames, elementNames, attributeNames]
  | link _ => simp [tagNames, elementNames, attributeNames]
  | sheet _ => simp [tagNames, elementNames, attributeNames]

variable {project : Project}

theorem linksTo_anything (context : Context) : LinksTo (fun _ => True) context where
  index := trivial
  modules _ _ := trivial
  chain _ _ _ _ := trivial
  classes _ _ := trivial
  sheets _ _ := trivial

/-- Without listeners every page is written as plain text, without angle brackets, and tags with
names and attributes of the fixed set, the values of which hold no angle bracket and no quote. -/
theorem page_is_written_with_fixed_tags
    {Observed : Type} (shaped : project.Shaped)
    {page : Page} (member : page ∈ pages project)
    {renderer : Renderer Observed}
    (noListeners : ∀ point, renderer.hooks.registrations point = []) :
    ∃ text tags, (renderPage page).run renderer = (.ok text, renderer) ∧
      Written text.toList tags ∧
      ∀ tag ∈ tags, tag.name ∈ tagNames ∧ ∀ pair ∈ tag.attributes,
        pair.1 ∈ attributeNames ∧ ∀ character ∈ pair.2.toList, IsQuotable character := by
  obtain ⟨text, rendered, tags, reads, areTags⟩ :=
    renderPage_piece shaped member noListeners (linksTo_anything _)
  have written := reads.written
  refine ⟨text, tags, rendered, written, fun tag tagMember => ?_⟩
  obtain ⟨name, keys⟩ := (areTags tag tagMember).names
  exact ⟨name, fun pair pairMember =>
    ⟨keys pair pairMember, written.quotable tag tagMember pair pairMember⟩⟩

/-- A module all texts of which look like markup, in a project with such a name and readme. -/
def hostileProject : Project :=
  { readme := "# <script>\n**`<i>`** \"><script>\n```\n<script>"
    tree := .node (.ofName "</title><script>" .project)
      [.node
        { name := "\"><script>", kind := .moduleFile, comment := "`<script>` <a href=\"x\">"
          signature := "<script>", source := some { file := "<script>.py", line := 1 }
          flags := ["<script>"] }
        []] }

theorem hostileProject_shaped : hostileProject.Shaped where
  root := rfl
  tree := by
    refine .node (List.forall_mem_singleton.mpr (by decide)) (List.forall_mem_singleton.mpr ?_)
    exact .node (List.forall_mem_nil _) (List.forall_mem_nil _)

theorem page_is_written_with_fixed_tags_hostile :
    (pages hostileProject).map Page.address =
        ["index.html", "modules/\"><script>.html"] ∧
      ∀ page ∈ pages hostileProject, ∃ text tags,
        (renderPage page).run bareRenderer = (.ok text, bareRenderer) ∧
          Written text.toList tags ∧ ∀ tag ∈ tags, tag.name ≠ "script" := by
  have addresses : (pages hostileProject).map Page.address =
      ["index.html", "modules/\"><script>.html"] := by
    decide +kernel
  refine ⟨addresses, fun page member => ?_⟩
  obtain ⟨text, tags, rendered, written, fixed⟩ := @page_is_written_with_fixed_tags hostileProject
    Unit hostileProject_shaped page member bareRenderer fun _ => rfl
  refine ⟨text, tags, rendered, written, fun tag tagMember same => ?_⟩
  have name := (fixed tag tagMember).1
  rw [same] at name
  revert name
  decide

end ApiDocs.Site
