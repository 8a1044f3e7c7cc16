import ApiDocs.Proofs.Markup.Rendered
import ApiDocs.Site.Page

/-!
# The tags of pages

Every piece of a page is markup that can be read, and its tags are fixed ones, the tags around
members and the tags that link.  So the links of a page can be told from how its tags were made,
whatever the texts of the project are.
-/

namespace ApiDocs.Site

open ApiDocs.Text ApiDocs.Markup

/-! ## Tags -/

/-- The tags of pages that hold no text of the project. -/
def fixedTags : List Tag :=
  commentTags ++
    (["head", "title", "body", "span", "h3", "strong"].map fun name => ⟨name, []⟩) ++
    (["html", "head", "title", "body", "header", "nav", "div", "main", "a", "h3", "span", "section",
      "strong"].map fun name => ⟨"/" ++ name, []⟩) ++
    [ ⟨"!DOCTYPE", [("html", "")]⟩,
      ⟨"html", [("lang", "en")]⟩,
      ⟨"meta", [("charset", "utf-8")]⟩,
      ⟨"meta", [("name", "viewport"), ("content", "width=device-width, initial-scale=1")]⟩,
      ⟨"header", [("class", "site-header")]⟩,
      ⟨"nav", [("class", "site-nav")]⟩,
      ⟨"div", [("class", "container")]⟩,
      ⟨"main", [("class", "content")]⟩,
      ⟨"li", [("class", "current")]⟩,
      ⟨"p", [("class", "breadcrumb")]⟩,
      ⟨"p", [("class", "source")]⟩,
      ⟨"span", [("class", "kind")]⟩,
      ⟨"span", [("class", "flags")]⟩,
      ⟨"div", [("class", "signature")]⟩ ]

/-- The tags of pages, where links lead to certain addresses only. -/
inductive PageTag (linked : String → Prop) : Tag → Prop where
  | fixed {tag : Tag} (member : tag ∈ fixedTags) : PageTag linked tag
  | member (name : String) :
      PageTag linked ⟨"section", [("class", "member"), ("id", escape name)]⟩
  | link {target : String} (leads : linked target) :
      PageTag linked ⟨"a", [("href", escape target)]⟩
  | sheet {target : String} (leads : linked target) :
      PageTag linked ⟨"link", [("rel", "stylesheet"), ("href", escape target)]⟩

/-- A piece of a page. -/
def Piece (linked : String → Prop) (text : String) : Prop :=
  Marked (PageTag linked) text.toList

/-- What stands on pages between the texts of the project. -/
def fixedTexts : List String :=
  [ "", "\n", " ", ":", " / ",
    "project", "module", "class", "function", "variable", "method", "property",
    "<!DOCTYPE html>", "<html lang=\"en\">", "</html>", "<head>", "</head>", "<body>", "</body>",
    "<meta charset=\"utf-8\">",
    "<meta name=\"viewport\" content=\"width=device-width, initial-scale=1\">",
    "<title>", "</title>", "</a></header>", "<nav class=\"site-nav\">", "</nav>",
    "<div class=\"container\">", "<div class=\"signature\">", "</div>",
    "<main class=\"content\">", "</main>", "</section>",
    "<h1>", "<h1><span class=\"kind\">", "</h1>", "<h2>", "</h2>", "<h2>Modules</h2>\n<ul>\n",
    "<h3>", "</h3>", "<p class=\"source\">Defined in ", "<p class=\"breadcrumb\">", "</p>",
    "<ul>", "<ul>\n", "</ul>", "\n</ul>", "</a>", "</li>", "</a></li>",
    " <span>", "<span class=\"flags\">", "</span>", "</span> ", "<strong>", "</strong>" ]

/-- Fixed texts are read as fixed tags. -/
theorem fixedTexts_run :
    ∀ text ∈ fixedTexts, (Reading.outside.run text.toList).1 = .outside ∧
      ∀ tag ∈ (Reading.outside.run text.toList).2, tag ∈ fixedTags := by
  decide +kernel

/-- What stands on pages before a value that is a text of the project, with the tag that is begun
and the attribute that the value is of. -/
def valueOpenings : List (String × Tag × String) :=
  [ ("<a href=\"", ⟨"a", []⟩, "href"),
    ("<li><a href=\"", ⟨"a", []⟩, "href"),
    ("<li class=\"current\"><a href=\"", ⟨"a", []⟩, "href"),
    ("<header class=\"site-header\"><a href=\"", ⟨"a", []⟩, "href"),
    ("<link rel=\"stylesheet\" href=\"", ⟨"link", [("rel", "stylesheet")]⟩, "href"),
    ("<section class=\"member\" id=\"", ⟨"section", [("class", "member")]⟩, "id") ]

/-- Before a value, fixed tags are read and the tag of the value. -/
theorem valueOpenings_run :
    ∀ opening ∈ valueOpenings,
      (Reading.outside.run opening.1.toList).1 =
          .value opening.2.1 opening.2.2.toList [] ∧
        ∀ tag ∈ (Reading.outside.run opening.1.toList).2, tag ∈ fixedTags := by
  decide +kernel

namespace Piece

variable {linked : String → Prop} {first second text : String}

theorem append (firstPiece : Piece linked first) (secondPiece : Piece linked second) :
    Piece linked (first ++ second) := by
  rw [Piece, String.toList_append]
  exact Marked.append firstPiece secondPiece

theorem intercalate {separator : String} {pieces : List String}
    (separatorPiece : Piece linked separator) (arePieces : ∀ piece ∈ pieces, Piece linked piece) :
    Piece linked (separator.intercalate pieces) := by
  rw [Piece, String.toList_intercalate]
  refine Marked.intercalate separatorPiece ?_
  intro characters member
  obtain ⟨piece, pieceMember, rfl⟩ := List.mem_map.mp member
  exact arePieces piece pieceMember

theorem fixed (member : text ∈ fixedTexts) : Piece linked text := by
  obtain ⟨ends, areFixed⟩ := fixedTexts_run text member
  exact ⟨_, Prod.ext ends rfl, fun tag tagMember => .fixed (areFixed tag tagMember)⟩

theorem empty : Piece linked "" := fixed (by simp [fixedTexts])

theorem line : Piece linked "\n" := fixed (by simp [fixedTexts])

theorem escaped (text : String) : Piece linked (escape text) := by
  apply Marked.of_not_isAngle
  intro character member
  rw [escape, String.toList_ofList] at member
  exact (isQuotable_of_mem_escapeAttribute character member).noAngle

theorem of_comment {text : List Char} (marked : Marked (· ∈ commentTags) text) :
    Piece linked (String.ofList text) := by
  rw [Piece, String.toList_ofList]
  refine marked.mono fun tag member => .fixed ?_
  rw [fixedTags, List.append_assoc, List.append_assoc]
  exact List.mem_append_left _ member

theorem comment (text : String) : Piece linked (Site.comment text) :=
  of_comment (renderComment_marked (by decide) text.toList)

theorem summary (text : String) : Piece linked (Site.summary text) :=
  of_comment (marked_inline (summary_marked text.toList))

theorem stack {pieces : List String} (arePieces : ∀ piece ∈ pieces, Piece linked piece) :
    Piece linked (stack pieces) :=
  intercalate line fun piece member => arePieces piece (List.mem_filter.mp member).1

theorem number (value : Int) : Piece linked (toString value) := by
  apply Marked.of_not_isAngle
  intro character member
  have digit {count : Nat} (inside : character ∈ (toString count).toList) : character.isDigit := by
    rw [Nat.toString_eq_repr, Nat.toList_repr] at inside
    exact Nat.isDigit_of_mem_toDigits (b := 10) (by decide) (by decide) inside
  have noDigit : IsAngle character → ¬ character.isDigit := by
    rintro (rfl | rfl) <;> decide
  intro isAngle
  cases value with
  | ofNat count => exact noDigit isAngle (digit member)
  | negSucc count =>
      have shown : (toString (Int.negSucc count)).toList =
          '-' :: (toString (count + 1)).toList := by
        rw [← List.singleton_append]
        exact String.toList_append
      rw [shown] at member
      rcases List.mem_cons.mp member with rfl | inside
      · exact absurd isAngle (by decide)
      · exact noDigit isAngle (digit inside)

/-- A value that is a text of the project. -/
theorem value {before key text : String} {tag : Tag}
    (opens : (before, tag, key) ∈ valueOpenings)
    (allowed : PageTag linked ⟨tag.name, tag.attributes ++ [(key, escape text)]⟩) :
    Piece linked (before ++ escape text ++ "\">") := by
  obtain ⟨ends, areFixed⟩ := valueOpenings_run _ opens
  have quotable : ∀ character ∈ (escape text).toList, IsQuotable character := by
    rw [escape, String.toList_ofList]
    exact isQuotable_of_mem_escapeAttribute
  have added : tag.add key.toList (escape text).toList =
      ⟨tag.name, tag.attributes ++ [(key, escape text)]⟩ := by
    rw [Tag.add, String.ofList_toList, String.ofList_toList]
  refine ⟨(Reading.outside.run before.toList).2 ++
    [⟨tag.name, tag.attributes ++ [(key, escape text)]⟩], ?_, ?_⟩
  · rw [String.toList_append, String.toList_append]
    refine reads_value (Prod.ext ends rfl) quotable ?_
    rw [added]
    rfl
  · intro other member
    rcases List.mem_append.mp member with earlier | isTag
    · exact .fixed (areFixed other earlier)
    · rw [List.mem_singleton.mp isTag]
      exact allowed

theorem link {before target : String}
    (opens : (before, ⟨"a", []⟩, "href") ∈ valueOpenings) (leads : linked target) :
    Piece linked (before ++ escape target ++ "\">") :=
  value opens (.link leads)

/-- The link to a style sheet in a directory. -/
theorem sheet {directory name ending : String} (same : escape name = name)
    (ends : name ++ "\">" = ending) (leads : linked (directory ++ name)) :
    Piece linked ("<link rel=\"stylesheet\" href=\"" ++ escape directory ++ ending) := by
  have together : escape directory ++ name = escape (directory ++ name) := by
    rw [← String.toList_inj]
    simp only [escape, String.toList_append, String.toList_ofList, escapeAttribute,
      List.flatMap_append, List.append_cancel_left_eq]
    rw [← escapeAttribute, ← String.toList_ofList (l := escapeAttribute name.toList), ← escape,
      same]
  have whole : "<link rel=\"stylesheet\" href=\"" ++ escape directory ++ ending =
      "<link rel=\"stylesheet\" href=\"" ++ escape (directory ++ name) ++ "\">" := by
    rw [← together, ← ends]
    simp only [String.append_assoc]
  have opens : ("<link rel=\"stylesheet\" href=\"", ⟨"link", [("rel", "stylesheet")]⟩, "href") ∈
      valueOpenings := by
    simp [valueOpenings]
  rw [whole]
  exact value opens (.sheet leads)

end Piece

section Pieces

variable {linked : String → Prop}

/-! ## Members and lists -/

theorem signature_piece (declaration : Declaration) : Piece linked (signature declaration) := by
  have parameters :
      Piece linked (String.ofList (Markup.renderSignature declaration.signature.toList)) := by
    rw [Piece, String.toList_ofList]
    exact .of_not_isAngle not_isAngle_of_mem_escapeCode
  have opening : Piece linked "<div class=\"signature\">" := .fixed (by simp [fixedTexts])
  have strong : Piece linked "<strong>" := .fixed (by simp [fixedTexts])
  have strongEnd : Piece linked "</strong>" := .fixed (by simp [fixedTexts])
  have closing : Piece linked "</div>" := .fixed (by simp [fixedTexts])
  exact ((((((opening.append (.escaped _)).append strong).append (.escaped _)).append
    strongEnd)).append parameters).append closing

theorem flags_piece (declaration : Declaration) : Piece linked (flags declaration) := by
  have opening : Piece linked "<span class=\"flags\">" := .fixed (by simp [fixedTexts])
  have closing : Piece linked "</span>" := .fixed (by simp [fixedTexts])
  rw [flags]
  split
  · exact .empty
  · exact (opening.append (.escaped _)).append closing

theorem source_piece (declaration : Declaration) : Piece linked (source declaration) := by
  have opening : Piece linked "<p class=\"source\">Defined in " := .fixed (by simp [fixedTexts])
  have colon : Piece linked ":" := .fixed (by simp [fixedTexts])
  have closing : Piece linked "</p>" := .fixed (by simp [fixedTexts])
  rw [source]
  split
  · exact .empty
  · exact (((opening.append (.escaped _)).append colon).append (.number _)).append closing

theorem memberOpening_piece (name : String) :
    Piece linked (s!"<section class=\"member\" id=\"{escape name}\">") := by
  have opens : ("<section class=\"member\" id=\"", ⟨"section", [("class", "member")]⟩, "id") ∈
      valueOpenings := by
    simp [valueOpenings]
  exact .value opens (.member name)

theorem member_piece (declaration : Declaration) : Piece linked (member declaration) := by
  have opening : Piece linked "<h3>" := .fixed (by simp [fixedTexts])
  have closing : Piece linked "</h3>" := .fixed (by simp [fixedTexts])
  have ending : Piece linked "</section>" := .fixed (by simp [fixedTexts])
  have blank : Piece linked " " := .fixed (by simp [fixedTexts])
  have name : Piece linked (escape declaration.name) := .escaped _
  have heading : Piece linked
      (if flags declaration = "" then escape declaration.name
        else escape declaration.name ++ " " ++ flags declaration) := by
    split
    · exact name
    · exact (name.append blank).append (flags_piece declaration)
  apply Piece.stack
  simp only [List.forall_mem_cons, List.not_mem_nil, false_implies, implies_true, and_true]
  exact ⟨memberOpening_piece declaration.name, (opening.append heading).append closing,
    signature_piece declaration, .comment _, source_piece declaration, ending⟩

theorem linkItem_piece (declaration : Declaration) {target : String} (leads : linked target) :
    Piece linked (linkItem declaration target) := by
  have opening : Piece linked ("<li><a href=\"" ++ escape target ++ "\">") :=
    .link (by simp [valueOpenings]) leads
  have closing : Piece linked "</a>" := .fixed (by simp [fixedTexts])
  have ending : Piece linked "</li>" := .fixed (by simp [fixedTexts])
  have span : Piece linked " <span>" := .fixed (by simp [fixedTexts])
  have spanEnd : Piece linked "</span>" := .fixed (by simp [fixedTexts])
  have description : Piece linked
      (if summary declaration.comment = "" then ""
        else s!" <span>{summary declaration.comment}</span>") := by
    split
    · exact .empty
    · exact (span.append (.summary _)).append spanEnd
  exact (((opening.append (.escaped _)).append closing).append description).append ending

theorem listItems_piece {items : List String} (arePieces : ∀ item ∈ items, Piece linked item) :
    Piece linked ("<ul>\n" ++ "\n".intercalate items ++ "\n</ul>") := by
  have opening : Piece linked "<ul>\n" := .fixed (by simp [fixedTexts])
  have closing : Piece linked "\n</ul>" := .fixed (by simp [fixedTexts])
  exact (opening.append (.intercalate .line arePieces)).append closing

variable {place : Place} {link : Place → String}

theorem sectionLines_piece
    (linksClasses : ∀ item ∈ place.childrenOfKind .classDefinition, linked (link item))
    (title : String) (kind : Kind) :
    ∀ piece ∈ sectionLines place link title kind, Piece linked piece := by
  have opening : Piece linked "<h2>" := .fixed (by simp [fixedTexts])
  have closing : Piece linked "</h2>" := .fixed (by simp [fixedTexts])
  rw [sectionLines]
  split
  · exact List.forall_mem_nil _
  · rename_i notEmpty
    refine List.forall_mem_cons.mpr ⟨(opening.append (.escaped title)).append closing, ?_⟩
    split
    · rename_i isClass
      subst isClass
      refine List.forall_mem_singleton.mpr (listItems_piece ?_)
      intro piece pieceMember
      obtain ⟨item, itemMember, rfl⟩ := List.mem_map.mp pieceMember
      exact linkItem_piece item.declaration (linksClasses item itemMember)
    · intro piece pieceMember
      obtain ⟨item, _, rfl⟩ := List.mem_map.mp pieceMember
      exact member_piece item.declaration

theorem sections_piece
    (linksClasses : ∀ item ∈ place.childrenOfKind .classDefinition, linked (link item))
    (table : List (String × Kind)) :
    Piece linked (sections place table link) := by
  refine .intercalate .line ?_
  intro piece member
  obtain ⟨entry, _, inside⟩ := List.mem_flatMap.mp member
  exact sectionLines_piece linksClasses entry.1 entry.2 piece inside

/-! ## Parts of a page -/

variable {context : Context}

theorem header_piece (linksIndex : linked (context.linkTo indexAddress)) :
    Piece linked (header context) := by
  have opening : Piece linked ("<header class=\"site-header\"><a href=\"" ++
      escape (context.linkTo indexAddress) ++ "\">") :=
    .link (by simp [valueOpenings]) linksIndex
  have closing : Piece linked "</a></header>" := .fixed (by simp [fixedTexts])
  exact (opening.append (.escaped _)).append closing

theorem navigation_piece
    (linksModules : ∀ item ∈ context.page.project.modules, linked (context.linkToPlace item))
    {before after : String} (beforePiece : Piece linked before) (afterPiece : Piece linked after) :
    Piece linked (navigation context before after) := by
  have opening : Piece linked "<nav class=\"site-nav\">" := .fixed (by simp [fixedTexts])
  have list : Piece linked "<ul>" := .fixed (by simp [fixedTexts])
  have listEnd : Piece linked "</ul>" := .fixed (by simp [fixedTexts])
  have closing : Piece linked "</nav>" := .fixed (by simp [fixedTexts])
  have itemEnd : Piece linked "</a></li>" := .fixed (by simp [fixedTexts])
  apply Piece.stack
  simp only [List.forall_mem_cons, List.forall_mem_append, List.not_mem_nil, false_implies,
    implies_true, and_true]
  refine ⟨opening, beforePiece, list, ?_, listEnd, afterPiece, closing⟩
  intro piece member
  obtain ⟨item, itemMember, rfl⟩ := List.mem_map.mp member
  have leads := linksModules item itemMember
  have itemOpening (mark : String) (isMark : mark = "" ∨ mark = " class=\"current\"") :
      Piece linked (s!"<li{mark}><a href=\"" ++ escape (context.linkToPlace item) ++ "\">") := by
    rcases isMark with rfl | rfl
    · have opens : ("<li><a href=\"", ⟨"a", []⟩, "href") ∈ valueOpenings := by
        simp [valueOpenings]
      exact .link opens leads
    · have opens : ("<li class=\"current\"><a href=\"", ⟨"a", []⟩, "href") ∈ valueOpenings := by
        simp [valueOpenings]
      exact .link opens leads
  have marks : (if isCurrent context item then " class=\"current\"" else "") = "" ∨
      (if isCurrent context item then " class=\"current\"" else "") = " class=\"current\"" := by
    split
    · exact Or.inr rfl
    · exact Or.inl rfl
  exact ((itemOpening _ marks).append (.escaped _)).append itemEnd

theorem indexContent_piece
    (linksModules : ∀ item ∈ context.page.project.modules, linked (context.linkToPlace item)) :
    Piece linked (indexContent context) := by
  have opening : Piece linked "<h1>" := .fixed (by simp [fixedTexts])
  have closing : Piece linked "</h1>" := .fixed (by simp [fixedTexts])
  have list : Piece linked "<h2>Modules</h2>\n<ul>\n" := .fixed (by simp [fixedTexts])
  have listEnd : Piece linked "\n</ul>" := .fixed (by simp [fixedTexts])
  refine .intercalate .line (List.forall_mem_cons.mpr ⟨?_, ?_⟩)
  · split
    · exact (opening.append (.escaped _)).append closing
    · exact .comment _
  · split
    · exact List.forall_mem_nil _
    · refine List.forall_mem_singleton.mpr ((list.append (.intercalate .line ?_)).append listEnd)
      intro piece member
      obtain ⟨item, itemMember, rfl⟩ := List.mem_map.mp member
      exact linkItem_piece item.declaration (linksModules item itemMember)

/-- The address that the link to an enclosing declaration leads to. -/
def crumbAddress? : List Declaration → Option String
  | [] => none
  | declaration :: chain =>
    if declaration.kind = .project then some indexAddress else chainAddress? (declaration :: chain)

/-- The link to an enclosing declaration. -/
def crumb (context : Context) (declaration : Declaration) (address : String) : String :=
  let name :=
    if declaration.kind = .project then projectTitle declaration.name else declaration.name
  s!"<a href=\"{escape (context.linkTo address)}\">{escape name}</a>"

theorem crumbs_cons (context : Context) (declaration : Declaration) (chain : List Declaration) :
    crumbs context (declaration :: chain) =
      match crumbAddress? (declaration :: chain) with
      | none => .error .noAddress
      | some address =>
        match crumbs context chain with
        | .error failure => .error failure
        | .ok outer => .ok (crumb context declaration address :: outer) := by
  rw [crumbs, crumbAddress?]
  by_cases isProject : declaration.kind = .project
  · simp only [isProject, if_true, crumb]
    cases crumbs context chain <;> rfl
  · simp only [isProject, if_false, crumb]
    cases chainAddress? (declaration :: chain) with
    | none => rfl
    | some address => cases crumbs context chain <;> rfl

/-- The links to what encloses a declaration lead to the index and to the pages of the enclosing
declarations. -/
theorem crumbs_piece {chain : List Declaration}
    (linksChain : ∀ rest, rest <:+ chain → ∀ address, crumbAddress? rest = some address →
      linked (context.linkTo address))
    {links : List String} (written : crumbs context chain = .ok links) :
    ∀ piece ∈ links, Piece linked piece := by
  have opensLink : ("<a href=\"", ⟨"a", []⟩, "href") ∈ valueOpenings := by simp [valueOpenings]
  have closing : Piece linked "</a>" := .fixed (by simp [fixedTexts])
  induction chain generalizing links with
  | nil =>
      cases written
      exact List.forall_mem_nil _
  | cons declaration chain inductionHypothesis =>
      rw [crumbs_cons] at written
      split at written
      · cases written
      · rename_i address found
        split at written
        · cases written
        · rename_i outer outerWritten
          cases written
          have leads := linksChain _ List.suffix_rfl address found
          have outerPieces := inductionHypothesis
            (fun rest suffix => linksChain rest (suffix.trans (List.suffix_cons declaration chain)))
            outerWritten
          refine List.forall_mem_cons.mpr ⟨?_, outerPieces⟩
          exact ((Piece.link opensLink leads).append (.escaped _)).append closing

theorem breadcrumb_piece
    (linksChain : ∀ rest, rest <:+ context.page.place.ancestors →
      ∀ address, crumbAddress? rest = some address → linked (context.linkTo address))
    {trail : String} (written : breadcrumb context = .ok trail) :
    Piece linked trail := by
  have opening : Piece linked "<p class=\"breadcrumb\">" := .fixed (by simp [fixedTexts])
  have slash : Piece linked " / " := .fixed (by simp [fixedTexts])
  have closing : Piece linked "</p>" := .fixed (by simp [fixedTexts])
  rw [breadcrumb] at written
  cases crumbsWritten : crumbs context context.page.place.ancestors with
  | error failure =>
      rw [crumbsWritten] at written
      cases written
  | ok links =>
      rw [crumbsWritten] at written
      cases written
      have pieces := crumbs_piece linksChain crumbsWritten
      refine (opening.append (.intercalate slash ?_)).append closing
      intro piece member
      exact pieces piece (List.mem_reverse.mp member)

theorem declarationContent_piece
    (linksChain : ∀ rest, rest <:+ context.page.place.ancestors →
      ∀ address, crumbAddress? rest = some address → linked (context.linkTo address))
    (linksClasses : ∀ item ∈ context.page.place.childrenOfKind .classDefinition,
      linked (context.linkToPlace item))
    {text : String} (written : declarationContent context = .ok text) :
    Piece linked text := by
  rw [declarationContent] at written
  cases trailWritten : breadcrumb context with
  | error failure =>
      rw [trailWritten] at written
      cases written
  | ok trail =>
      rw [trailWritten] at written
      cases written
      have opening : Piece linked "<h1><span class=\"kind\">" := .fixed (by simp [fixedTexts])
      have spanEnd : Piece linked "</span> " := .fixed (by simp [fixedTexts])
      have closing : Piece linked "</h1>" := .fixed (by simp [fixedTexts])
      have word : Piece linked context.page.place.declaration.kind.word := by
        cases context.page.place.declaration.kind
        all_goals exact .fixed (by simp [fixedTexts, Kind.word])
      have shown : Piece linked
          (if context.page.place.declaration.kind = .classDefinition then
            signature context.page.place.declaration else "") := by
        split
        · exact signature_piece _
        · exact .empty
      apply Piece.stack
      simp only [List.forall_mem_cons, List.not_mem_nil, false_implies, implies_true, and_true]
      exact ⟨breadcrumb_piece linksChain trailWritten,
        (((opening.append word).append spanEnd).append (.escaped _)).append closing, shown,
        .comment _, source_piece _, sections_piece linksClasses _⟩

/-! ## Whole pages -/

/-- Where the links of a page have to lead for all of them to lead to certain addresses. -/
structure LinksTo (linked : String → Prop) (context : Context) : Prop where
  index : linked (context.linkTo indexAddress)
  modules : ∀ item ∈ context.page.project.modules, linked (context.linkToPlace item)
  chain : ∀ rest, rest <:+ context.page.place.ancestors →
    ∀ address, crumbAddress? rest = some address → linked (context.linkTo address)
  classes : ∀ item ∈ context.page.place.childrenOfKind .classDefinition,
    linked (context.linkToPlace item)
  sheets : ∀ name ∈ ["/style.css", "/highlight.css"], linked (context.linkTo assetsAddress ++ name)

theorem content_piece (links : LinksTo linked context) {text : String}
    (written : content context = .ok text) :
    Piece linked text := by
  rw [content] at written
  split at written
  · cases written
    exact indexContent_piece links.modules
  · exact declarationContent_piece links.chain links.classes written

/-- A page is read as fixed tags and links, whatever the fragments are that are inserted, as long as
each of them is. -/
theorem compose_piece (links : LinksTo linked context) {text : String}
    (textPiece : Piece linked text) {fragments : HookPoint → String}
    (fragmentPieces : ∀ point, Piece linked (fragments point)) :
    Piece linked (compose context text fragments) := by
  have title : Piece linked (s!"<title>{escape (Site.title context)}</title>") := by
    have opening : Piece linked "<title>" := .fixed (by simp [fixedTexts])
    have closing : Piece linked "</title>" := .fixed (by simp [fixedTexts])
    exact (opening.append (.escaped _)).append closing
  let assets := escape (context.linkTo assetsAddress)
  have style : Piece linked (s!"<link rel=\"stylesheet\" href=\"{assets}/style.css\">") := by
    have leads := links.sheets "/style.css" List.mem_cons_self
    exact Piece.sheet (rfl : escape "/style.css" = "/style.css") rfl leads
  have highlight :
      Piece linked (s!"<link rel=\"stylesheet\" href=\"{assets}/highlight.css\">") := by
    have leads := links.sheets "/highlight.css" (List.mem_cons_of_mem _ List.mem_cons_self)
    exact Piece.sheet (rfl : escape "/highlight.css" = "/highlight.css") rfl leads
  have inside : Piece linked (stack [fragments .contentBegin, text, fragments .contentEnd]) := by
    apply Piece.stack
    simp only [List.forall_mem_cons, List.not_mem_nil, false_implies, implies_true, and_true]
    exact ⟨fragmentPieces _, textPiece, fragmentPieces _⟩
  have navigation := navigation_piece links.modules (fragmentPieces .navigationBegin)
    (fragmentPieces .navigationEnd)
  rw [compose, Frame.render]
  refine Piece.append (.stack ?_) .line
  rw [Frame.lines]
  simp only [List.forall_mem_cons, List.not_mem_nil, false_implies, implies_true, and_true]
  refine ⟨?_, ?_, ?_, fragmentPieces _, ?_, ?_, title, style, highlight, fragmentPieces _, ?_, ?_,
    fragmentPieces _, header_piece links.index, ?_, navigation, ?_, inside, ?_, ?_,
    fragmentPieces _, ?_, ?_⟩
  all_goals exact .fixed (by simp [fixedTexts])

end Pieces

end ApiDocs.Site
