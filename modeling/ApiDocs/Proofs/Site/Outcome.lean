import ApiDocs.Proofs.Site.Effects
import ApiDocs.Proofs.Site.Links
import ApiDocs.Proofs.Site.Survival

/-!
# The outcome of a run

After a run the output directory holds the style sheets and the pages on which no listener failed,
and nothing else.  What a page says does not depend on the other pages, nor on what the output
directory held before.
-/

namespace ApiDocs

/-! ## The files of a directory -/

namespace Disk

/-- The files below a place are the given ones. -/
def HoldsExactly (disk : Disk) (place : List String) (files : List (List String × List UInt8)) :
    Prop :=
  ∀ relative content, disk.fileAt? (place ++ relative) = some content ↔ (relative, content) ∈ files

variable {before after : Disk} {place : List String} {files : List (List String × List UInt8)}

theorem holdsExactly_remove (inside : place ≠ []) (disk : Disk) :
    (disk.remove place).HoldsExactly place [] := by
  intro relative content
  have gone := fileAt?_remove_of_prefix inside (List.prefix_append place relative) disk
  rw [gone]
  simp

theorem HoldsExactly.makeDirectories (holds : before.HoldsExactly place files)
    {path : Path} {mayExist : Bool} (made : before.makeDirectories path mayExist = .ok after) :
    after.HoldsExactly place files := by
  have keeps : before.Keeps (fun _ => True) after := makeDirectories_keeps made
  intro relative content
  rw [keeps.files _ trivial]
  exact holds relative content

/-- A file that is written in a new place is one file more. -/
theorem HoldsExactly.write (holds : before.HoldsExactly place files)
    {path : Path} {relative : List String} {content : List UInt8} {name : String}
    (last : path.parts.getLast? = some name) (named : name ≠ "..")
    (at_place : before.resolve path = place ++ relative)
    (new : relative ∉ files.map Prod.fst)
    (written : before.write path content = .ok after) :
    after.HoldsExactly place (files ++ [(relative, content)]) := by
  have stands := fileAt?_write last named written
  have keeps : before.Keeps (· ≠ before.resolve path) after := write_keeps (by simp) written
  rw [at_place] at stands keeps
  intro other otherContent
  rw [List.mem_append, List.mem_singleton, Prod.mk.injEq]
  by_cases same : other = relative
  · rw [same, stands, Option.some.injEq]
    have notOld : (relative, otherContent) ∉ files := fun member =>
      new (List.mem_map.mpr ⟨_, member, rfl⟩)
    simp [notOld, eq_comm]
  · rw [keeps.files (place ++ other) (by simpa using same)]
    simp [same, holds other otherContent]

end Disk

namespace Site

open ApiDocs.Computation

/-! ## Files of a site -/

section Files

variable (answers : Answers) (options : Options) (directory : List String)

/-- The file of a page, unless the page cannot be produced. -/
def pageFile? (page : Page) : Option (List String × List UInt8) :=
  match produced answers options directory page with
  | .ok produced => some (Path.components page.address, Text.encode produced.contents.toList)
  | .error _ => none

/-- The files of a site: the style sheets and the pages that can be produced. -/
def siteFiles (project : Project) : List (List String × List UInt8) :=
  [([assetsAddress, "style.css"], Text.encode stylesheet.toList),
    ([assetsAddress, "highlight.css"], Text.encode (highlightText options).toList)] ++
    (pages project).filterMap (pageFile? answers options directory)

end Files

/-! ## Addresses of produced pages -/

/-- Listeners change nothing but the contents of a page. -/
theorem rewritten_eq {answers : List EventAnswer} {page last : Page}
    (rewrites : rewritten answers page = .ok last) :
    ∃ contents, last = { page with contents } := by
  induction answers generalizing page with
  | nil =>
      obtain rfl := Except.ok.inj rewrites
      exact ⟨page.contents, rfl⟩
  | cons answer answers inductionHypothesis =>
      rw [rewritten, List.foldlM_cons] at rewrites
      cases replied : answer (.page page) with
      | error failure =>
          rw [replied] at rewrites
          cases rewrites
      | ok reply =>
          rw [replied] at rewrites
          have rest : rewritten answers (page.answered reply) = .ok last := rewrites
          obtain ⟨contents, rfl⟩ := inductionHypothesis rest
          exact ⟨contents, rfl⟩

theorem produced_eq {answers : Answers} {options : Options} {directory : List String}
    {page last : Page} (produces : produced answers options directory page = .ok last) :
    ∃ contents, last = { page with contents } := by
  rw [produced, drafted_eq] at produces
  cases begins : rewritten (answers.events .pageBegin) page with
  | error failure =>
      rw [begins] at produces
      cases produces
  | ok begun =>
      rw [begins] at produces
      simp only at produces
      cases written : pageText answers.hooks { page := begun, options, directory } with
      | error failure =>
          rw [written] at produces
          cases produces
      | ok contents =>
          rw [written] at produces
          have ends : rewritten (answers.events .pageEnd) { begun with contents } = .ok last :=
            produces
          obtain ⟨_, rfl⟩ := rewritten_eq begins
          obtain ⟨final, rfl⟩ := rewritten_eq ends
          exact ⟨final, rfl⟩

theorem produced_address {answers : Answers} {options : Options} {directory : List String}
    {page last : Page} (produces : produced answers options directory page = .ok last) :
    last.address = page.address := by
  obtain ⟨_, rfl⟩ := produced_eq produces
  rfl

/-! ## What an effect leaves -/

theorem change_followedBy_ok {first second : Effect} {before after : Disk}
    (changed : (first.followedBy second).change before = .ok after) :
    ∃ middle, first.change before = .ok middle ∧ second.change middle = .ok after := by
  rw [Effect.change_followedBy] at changed
  cases changes : first.change before with
  | error fault =>
      rw [changes] at changed
      cases changed
  | ok middle =>
      rw [changes] at changed
      exact ⟨middle, rfl, changed⟩

section Storing

variable {out : Path} {place : List String} {files : List (List String × List UInt8)}
  {before after : Disk}

/-- The files of a directory, with its place seen from the working directory. -/
structure Stores (disk : Disk) (out : Path) (place : List String)
    (files : List (List String × List UInt8)) : Prop where
  resolves : disk.resolve out = place
  holds : disk.HoldsExactly place files

theorem Stores.makeDirectories (stores : Stores before out place files)
    {path : Path} {mayExist : Bool} (made : before.makeDirectories path mayExist = .ok after) :
    Stores after out place files where
  resolves := by
    have keeps : before.Keeps (fun _ => True) after := Disk.makeDirectories_keeps made
    rw [Disk.resolve_congr keeps.workingDirectory]
    exact stores.resolves
  holds := stores.holds.makeDirectories made

theorem Stores.write (stores : Stores before out place files)
    {relative : List String} (names : ∀ name ∈ relative, IsName name) (nonempty : relative ≠ [])
    (new : relative ∉ files.map Prod.fst) {content : List UInt8}
    (written : before.write { out with parts := out.parts ++ relative } content = .ok after) :
    Stores after out place (files ++ [(relative, content)]) := by
  have keeps : before.Keeps (fun _ => False) after := Disk.write_keeps not_false written
  obtain ⟨start, last, rfl⟩ := List.eq_nil_or_concat relative |>.resolve_left nonempty
  rw [List.concat_eq_append] at *
  have lastName := names last (List.mem_append_right start List.mem_cons_self)
  refine ⟨?_, stores.holds.write ?_ lastName.ne_dots ?_ new written⟩
  · rw [Disk.resolve_congr keeps.workingDirectory]
    exact stores.resolves
  · rw [← List.append_assoc, List.getLast?_concat]
  · rw [Disk.resolve_append_parts fun name member => (names name member).ne_dots, stores.resolves]

/-- The sheets are written into their directory. -/
theorem stores_assets {options : Options} (stores : Stores before out place [])
    (changed : (assetsEffect options out).change before = .ok after) :
    Stores after out place
      [([assetsAddress, "style.css"], Text.encode stylesheet.toList),
        ([assetsAddress, "highlight.css"], Text.encode (highlightText options).toList)] := by
  have sheet (name : String) :
      (out.child assetsAddress).child name =
        { out with parts := out.parts ++ [assetsAddress, name] } := by
    rw [Path.child, Path.child, List.append_assoc]
    rfl
  have names {name : String} (isName : IsName name) :
      ∀ part ∈ [assetsAddress, name], IsName part := by
    rw [List.forall_mem_cons, List.forall_mem_singleton]
    exact ⟨⟨by decide, by decide, by decide, by decide⟩, isName⟩
  obtain ⟨made, makes, changed⟩ := change_followedBy_ok changed
  obtain ⟨styled, styles, changed⟩ := change_followedBy_ok changed
  obtain ⟨told, tells, highlights⟩ := change_followedBy_ok changed
  have unchanged : told = styled := by
    rw [styleEffect] at tells
    split at tells <;> exact (Except.ok.inj tells).symm
  rw [unchanged] at highlights
  have madeStores : Stores made out place [] := stores.makeDirectories makes
  have writesStyle : made.write { out with parts := out.parts ++ [assetsAddress, "style.css"] }
      (Text.encode stylesheet.toList) = .ok styled := by
    rw [← sheet]
    exact styles
  have writesHighlight :
      styled.write { out with parts := out.parts ++ [assetsAddress, "highlight.css"] }
        (Text.encode (highlightText options).toList) = .ok after := by
    rw [← sheet]
    exact highlights
  have styledStores := madeStores.write (names ⟨by decide, by decide, by decide, by decide⟩)
    (List.cons_ne_nil _ _) List.not_mem_nil writesStyle
  exact styledStores.write (names ⟨by decide, by decide, by decide, by decide⟩)
    (List.cons_ne_nil _ _) (by simp) writesHighlight

theorem components_of_isAddress {address : String} (isAddress : IsAddress address) :
    (∀ name ∈ Path.components address, IsName name) ∧ Path.components address ≠ [] ∧
      "/".intercalate (Path.components address) = address := by
  obtain ⟨directories, file, rfl, names⟩ := isAddress
  rw [Path.components_intercalate fun name member => (names name member).isPart]
  exact ⟨names, List.append_ne_nil_of_right_ne_nil _ (List.cons_ne_nil _ _), rfl⟩

/-- An address can be told from its components. -/
theorem eq_of_components_eq {address other : String} (isAddress : IsAddress address)
    (otherIsAddress : IsAddress other)
    (same : Path.components address = Path.components other) :
    address = other := by
  rw [← (components_of_isAddress isAddress).2.2, same,
    (components_of_isAddress otherIsAddress).2.2]

theorem join_address {address : String} (isAddress : IsAddress address) (out : Path) :
    out.join (Path.ofString address) =
      { out with parts := out.parts ++ Path.components address } := by
  obtain ⟨names, _, same⟩ := components_of_isAddress isAddress
  have relative : Path.Relative address := by
    rw [← same]
    exact Path.relative_intercalate fun name member => (names name member).isPart
  rw [Path.join, Path.ofString, Path.rootOf_of_relative relative]
  rfl

theorem stores_page {page : Page} (stores : Stores before out place files)
    (isAddress : IsAddress page.address)
    (new : Path.components page.address ∉ files.map Prod.fst)
    (changed : (storeEffect out page).change before = .ok after) :
    Stores after out place
      (files ++ [(Path.components page.address, Text.encode page.contents.toList)]) := by
  obtain ⟨names, nonempty, _⟩ := components_of_isAddress isAddress
  obtain ⟨middle, made, written⟩ := change_followedBy_ok changed
  have writes : middle.write (out.join (Path.ofString page.address))
      (Text.encode page.contents.toList) = .ok after := written
  rw [join_address isAddress] at writes
  have middleStores : Stores middle out place files := stores.makeDirectories made
  exact middleStores.write names nonempty new writes

variable {answers : Answers} {options : Options} {directory : List String}

/-- Page after page, what can be produced is stored in a place of its own. -/
theorem stores_pages {items : List Page}
    (areAddresses : ∀ page ∈ items, IsAddress page.address)
    (distinct : (items.map Page.address).Nodup)
    (new : ∀ page ∈ items, Path.components page.address ∉ files.map Prod.fst)
    (stores : Stores before out place files)
    (changed : (Effect.sequence (items.map (pageEffect answers options directory out))).change
      before = .ok after) :
    Stores after out place (files ++ items.filterMap (pageFile? answers options directory)) := by
  induction items generalizing before files with
  | nil =>
      obtain rfl := Except.ok.inj changed
      rw [List.filterMap_nil, List.append_nil]
      exact stores
  | cons page rest inductionHypothesis =>
      rw [List.forall_mem_cons] at areAddresses new
      rw [List.map_cons, List.nodup_cons] at distinct
      obtain ⟨middle, changes, changed⟩ := change_followedBy_ok changed
      -- a page that is not produced adds no file; one that is adds a file that no later page takes
      cases produces : produced answers options directory page with
      | error failure =>
          have same : middle = before := by
            simp only [pageEffect, produces] at changes
            exact (Except.ok.inj changes).symm
          have noFile : pageFile? answers options directory page = none := by
            rw [pageFile?, produces]
          rw [List.filterMap_cons_none noFile]
          rw [same] at changed
          exact inductionHypothesis areAddresses.2 distinct.2 new.2 stores changed
      | ok made =>
          have address := produced_address produces
          have stored : (storeEffect out made).change before = .ok middle := by
            simp only [pageEffect, produces] at changes
            exact changes
          have file : pageFile? answers options directory page =
              some (Path.components page.address, Text.encode made.contents.toList) := by
            rw [pageFile?, produces]
          have middleStores := stores_page stores (address ▸ areAddresses.1)
            (address ▸ new.1) stored
          rw [address] at middleStores
          have restNew : ∀ other ∈ rest, Path.components other.address ∉
              (files ++ [(Path.components page.address,
                Text.encode made.contents.toList)]).map Prod.fst := by
            intro other member
            rw [List.map_append, List.mem_append, not_or]
            refine ⟨new.2 other member, ?_⟩
            intro same
            apply distinct.1
            have sameAddress := eq_of_components_eq (areAddresses.2 other member) areAddresses.1
              (List.mem_singleton.mp same)
            exact List.mem_map.mpr ⟨other, member, sameAddress⟩
          have restStores := inductionHypothesis areAddresses.2 distinct.2 restNew middleStores
            changed
          rw [List.filterMap_cons_some file]
          rwa [List.append_assoc, List.singleton_append] at restStores

end Storing

/-! ## Failing listeners -/

/-- A listener fails on a page, with what its contents are at that time. -/
def Raises (answers : Answers) (options : Options) (directory : List String) (page : Page)
    (failure : Failure) : Prop :=
  ∃ contents,
    (∃ event ∈ [RenderEvent.pageBegin, .pageEnd], ∃ answer ∈ answers.events event,
      answer (.page { page with contents }) = .error failure) ∨
      ∃ point, ∃ answer ∈ answers.hooks point,
        answer { page := { page with contents }, options, directory } = .error failure

section Raising

variable {answers : Answers} {options : Options} {directory : List String} {failure : Failure}

theorem exists_of_mapM_eq_error {Item Answer : Type} {items : List Item}
    {step : Item → Except Failure Answer} (fails : items.mapM step = .error failure) :
    ∃ item ∈ items, step item = .error failure := by
  induction items with
  | nil => cases fails
  | cons item items inductionHypothesis =>
      rw [List.mapM_cons] at fails
      cases stepped : step item with
      | error other =>
          rw [stepped] at fails
          obtain rfl := Except.error.inj fails
          exact ⟨item, List.mem_cons_self, stepped⟩
      | ok answer =>
          cases rest : items.mapM step with
          | ok answers =>
              rw [stepped, rest] at fails
              cases fails
          | error other =>
              rw [stepped, rest] at fails
              obtain rfl := Except.error.inj fails
              obtain ⟨later, member, failed⟩ := inductionHypothesis rest
              exact ⟨later, List.mem_cons_of_mem item member, failed⟩

theorem exists_of_rewritten_eq_error {listeners : List EventAnswer} {page : Page}
    (fails : rewritten listeners page = .error failure) :
    ∃ contents, ∃ answer ∈ listeners, answer (.page { page with contents }) = .error failure := by
  induction listeners generalizing page with
  | nil => cases fails
  | cons answer listeners inductionHypothesis =>
      rw [rewritten, List.foldlM_cons] at fails
      cases replied : answer (.page page) with
      | error other =>
          rw [replied] at fails
          obtain rfl := Except.error.inj fails
          exact ⟨page.contents, answer, List.mem_cons_self, replied⟩
      | ok reply =>
          rw [replied] at fails
          have rest : rewritten listeners (page.answered reply) = .error failure := fails
          obtain ⟨contents, later, member, failed⟩ := inductionHypothesis rest
          exact ⟨contents, later, List.mem_cons_of_mem answer member, failed⟩

theorem exists_of_pageText_eq_error {context : Context} {text : String}
    (written : content context = .ok text)
    (fails : pageText answers.hooks context = .error failure) :
    ∃ point, ∃ answer ∈ answers.hooks point, answer context = .error failure := by
  rw [pageText, written] at fails
  cases asked : HookPoint.all.mapM (fun point => do
      let fragment ← inserted answers.hooks context point
      return (point, fragment)) with
  | ok fragments =>
      rw [asked] at fails
      cases fails
  | error other =>
      rw [asked] at fails
      obtain rfl := Except.error.inj fails
      obtain ⟨point, _, pointFails⟩ := exists_of_mapM_eq_error asked
      cases inserts : inserted answers.hooks context point with
      | ok fragment =>
          rw [inserts] at pointFails
          cases pointFails
      | error last =>
          rw [inserts] at pointFails
          obtain rfl := Except.error.inj pointFails
          rw [inserted] at inserts
          cases replies : (answers.hooks point).mapM fun answer => answer context with
          | ok fragments =>
              rw [replies] at inserts
              cases inserts
          | error final =>
              rw [replies] at inserts
              obtain rfl := Except.error.inj inserts
              exact ⟨point, exists_of_mapM_eq_error replies⟩

/-- On a page of a project of the usual shape nothing can fail but a listener. -/
theorem raises_of_produced {project : Project}
    (shaped : project.Shaped) {page : Page} (member : page ∈ pages project)
    (fails : produced answers options directory page = .error failure) :
    Raises answers options directory page failure := by
  have placeMember := place_mem_of_mem_pages member
  rw [produced, drafted_eq] at fails
  cases begins : rewritten (answers.events .pageBegin) page with
  | error other =>
      rw [begins] at fails
      obtain rfl := Except.error.inj fails
      obtain ⟨contents, raises⟩ := exists_of_rewritten_eq_error begins
      exact ⟨contents, Or.inl ⟨.pageBegin, List.mem_cons_self, raises⟩⟩
  | ok begun =>
      obtain ⟨contents, rfl⟩ := rewritten_eq begins
      obtain ⟨text, written⟩ :=
        content_ok shaped { page := { page with contents }, options, directory } placeMember
      rw [begins] at fails
      simp only at fails
      cases drafts : pageText answers.hooks
          { page := { page with contents }, options, directory } with
      | error other =>
          rw [drafts] at fails
          obtain rfl := Except.error.inj fails
          exact ⟨contents, Or.inr (exists_of_pageText_eq_error written drafts)⟩
      | ok text =>
          rw [drafts] at fails
          have ends : rewritten (answers.events .pageEnd) { page with contents := text } =
              .error failure := fails
          obtain ⟨last, raises⟩ := exists_of_rewritten_eq_error ends
          exact ⟨last, Or.inl ⟨.pageEnd, List.mem_cons_of_mem _ List.mem_cons_self, raises⟩⟩

end Raising

/-! ## Messages and events -/

section Run

variable {Observed : Type} {project : Project}

/-- The events of a run, with what each is about. -/
def siteTrace (answers : Answers) (options : Options) (directory : List String)
    (project : Project) (out : Path) : List Emission :=
  (.renderBegin, .run project out) ::
    ((pages project).flatMap (pageTrace answers options directory) ++
      [(.renderEnd, .run project out)])

theorem countP_failureMessages (answers : Answers) (options : Options) (directory : List String)
    (items : List Page) :
    (items.flatMap (failureMessages answers options directory)).countP
        (fun message => message.1 = .error) =
      items.countP fun page => !(produced answers options directory page).isOk := by
  induction items with
  | nil => rfl
  | cons page rest inductionHypothesis =>
      rw [List.flatMap_cons, List.countP_append, inductionHypothesis, List.countP_cons,
        failureMessages]
      cases produced answers options directory page with
      | ok made => simp [Except.isOk, Except.toBool]
      | error failure => simp [Except.isOk, Except.toBool, Nat.add_comm]

theorem messages_runEffect (renderer : Renderer Observed) (answers : Answers) (project : Project)
    (out : Path) :
    (runEffect renderer answers project out).messages =
      (styleEffect renderer.options).messages ++ (pages project).flatMap
        (failureMessages answers renderer.options renderer.disk.workingDirectory) := by
  simp only [runEffect, assetsEffect, Effect.followedBy, Effect.ofChange, Effect.ofEvent,
    Effect.messages_sequence, List.flatMap_map, List.nil_append, List.append_nil]
  rfl

theorem trace_runEffect (renderer : Renderer Observed) (answers : Answers) (project : Project)
    (out : Path) :
    (runEffect renderer answers project out).trace =
      siteTrace answers renderer.options renderer.disk.workingDirectory project out := by
  have style : (styleEffect renderer.options).trace = [] := by
    rw [styleEffect]
    split <;> rfl
  simp only [runEffect, assetsEffect, Effect.followedBy, Effect.ofChange, Effect.ofEvent, style,
    Effect.trace_sequence, List.flatMap_map, List.nil_append, List.append_nil]
  rfl

/-- No page has the place of a style sheet. -/
theorem notMem_sheets {address : String} (isAddress : IsAddress address)
    (isPage : address.endsWith ".html" = true) :
    Path.components address ∉ [[assetsAddress, "style.css"], [assetsAddress, "highlight.css"]] := by
  intro isSheet
  have ends := (endsWith_iff _ _).mp isPage
  have same := (components_of_isAddress isAddress).2.2
  simp only [List.mem_cons, List.not_mem_nil, or_false] at isSheet
  rw [← same] at ends
  rcases isSheet with isStyle | isHighlight
  · rw [isStyle] at ends
    exact absurd ends (by decide)
  · rw [isHighlight] at ends
    exact absurd ends (by decide)

/-- What the whole run leaves in the output directory. -/
theorem stores_run
    (shaped : project.Shaped) (plain : PlainNames project)
    (distinct : ((pages project).map Page.address).Nodup)
    {renderer : Renderer Observed} {answers : Answers} {out : Path} {disk : Disk}
    (inside : renderer.disk.resolve out ≠ [])
    (changed : (runEffect renderer answers project out).change renderer.disk = .ok disk) :
    Stores disk out (renderer.disk.resolve out)
      (siteFiles answers renderer.options renderer.disk.workingDirectory project) := by
  obtain ⟨removed, removes, changed⟩ := change_followedBy_ok changed
  obtain ⟨made, makes, changed⟩ := change_followedBy_ok changed
  obtain ⟨begun, begins, changed⟩ := change_followedBy_ok changed
  obtain ⟨styled, styles, changed⟩ := change_followedBy_ok changed
  obtain ⟨paged, stored, ends⟩ := change_followedBy_ok changed
  obtain rfl : renderer.disk.remove (renderer.disk.resolve out) = removed :=
    Except.ok.inj removes
  obtain rfl : made = begun := Except.ok.inj begins
  obtain rfl : paged = disk := Except.ok.inj ends
  have empty : Stores (renderer.disk.remove (renderer.disk.resolve out)) out
      (renderer.disk.resolve out) [] :=
    ⟨rfl, Disk.holdsExactly_remove inside renderer.disk⟩
  have madeStores : Stores made out (renderer.disk.resolve out) [] := empty.makeDirectories makes
  have addresses : ∀ page ∈ pages project, IsAddress page.address := fun page member =>
    isAddress_of_mem_pages shaped plain member
  refine stores_pages addresses distinct ?_ (stores_assets madeStores styles) stored
  intro page member
  exact notMem_sheets (addresses page member) (address_endsWith member)

/-- A page that cannot be produced has no file. -/
theorem notMem_siteFiles
    (shaped : project.Shaped) (plain : PlainNames project)
    (distinct : ((pages project).map Page.address).Nodup)
    {answers : Answers} {options : Options} {directory : List String} {page : Page}
    (member : page ∈ pages project) {failure : Failure}
    (failed : produced answers options directory page = .error failure) (content : List UInt8) :
    (Path.components page.address, content) ∉ siteFiles answers options directory project := by
  have isAddress := isAddress_of_mem_pages shaped plain member
  intro isFile
  rcases List.mem_append.mp isFile with sheet | file
  · have isSheet := List.mem_map_of_mem (f := Prod.fst) sheet
    exact notMem_sheets isAddress (address_endsWith member) isSheet
  · obtain ⟨other, otherMember, found⟩ := List.mem_filterMap.mp file
    rw [pageFile?] at found
    split at found
    · rename_i made produces
      obtain ⟨sameComponents, _⟩ := Prod.mk.inj (Option.some.inj found)
      have otherIsAddress := isAddress_of_mem_pages shaped plain otherMember
      have sameAddress := eq_of_components_eq isAddress otherIsAddress sameComponents.symm
      obtain rfl := List.inj_on_of_nodup_map distinct member otherMember sameAddress
      rw [failed] at produces
      cases produces
    · cases found

/-- What fails on one page stays on that page.  Where the run is accepted and the files can be
changed, the output directory holds the style sheets and the pages that were produced, and nothing
else; each page that was not is missing because a listener failed on it, and is one error more; and
the events are those of the run around those of the pages, in the order of the pages. -/
theorem failing_pages_are_isolated
    (shaped : project.Shaped) (plain : PlainNames project)
    (distinct : ((pages project).map Page.address).Nodup)
    {renderer : Renderer Observed} {answers : Answers} (answersAs : AnswersAs renderer answers)
    {out : Path}
    (accepted : refusal? renderer.environment renderer.disk
      (renderer.options.textsOf .inputFiles) out = .ok none)
    (succeed : ∀ event ∈ [RenderEvent.renderBegin, .renderEnd],
      ∀ answer ∈ answers.events event, ∃ reply, answer (.run project out) = .ok reply)
    (written : ∀ fault, ((render project out).run renderer).1 ≠ .error (.file fault)) :
    let options := renderer.options
    let directory := renderer.disk.workingDirectory
    let place := renderer.disk.resolve out
    ∃ after, (render project out).run renderer = (.ok (), after) ∧
      after.disk.HoldsExactly place (siteFiles answers options directory project) ∧
      (∀ page ∈ pages project, ∀ failure, produced answers options directory page = .error failure →
        Raises answers options directory page failure ∧
          after.disk.fileAt? (place ++ Path.components page.address) = none) ∧
      after.logger.errors = renderer.logger.errors +
        (pages project).countP (fun page => !(produced answers options directory page).isOk) ∧
      after.logger = renderer.logger.logAll ((styleEffect options).messages ++
        (pages project).flatMap (failureMessages answers options directory)) ∧
      after.observed =
        heard renderer (siteTrace answers options directory project out) renderer.observed := by
  intro options directory place
  have inside : renderer.disk.resolve out ≠ [] := by
    intro root
    apply (separate_of_refusal? accepted).workingDirectory
    rw [root]
    exact List.nil_prefix
  obtain ⟨succeeds, fails⟩ := does_render answersAs accepted succeed
  cases changed : (runEffect renderer answers project out).change renderer.disk with
  | error fault => exact absurd (fails fault changed) (written fault)
  | ok disk =>
      have stores := stores_run shaped plain distinct inside changed
      -- the run is its effect, so what is left can be read off the effect: its files, its messages
      -- and its trace
      refine ⟨_, succeeds disk changed, stores.holds, ?_, ?_, ?_, ?_⟩
      · intro page member failure failed
        refine ⟨raises_of_produced shaped member failed, ?_⟩
        rw [Option.eq_none_iff_forall_ne_some]
        intro content stands
        exact notMem_siteFiles shaped plain distinct member failed content
          ((stores.holds _ content).mp stands)
      · have counted := renderer.logger.errors_logAll
          (runEffect renderer answers project out).messages
        have styleErrors : (styleEffect renderer.options).messages.countP
            (fun message => message.1 = .error) = 0 := by
          rw [styleEffect]
          split <;> rfl
        rw [messages_runEffect, List.countP_append, styleErrors, countP_failureMessages,
          Nat.zero_add] at counted
        rw [← counted, ← messages_runEffect]
        rfl
      · have messages := messages_runEffect renderer answers project out
        rw [← messages]
        rfl
      · have trace := trace_runEffect renderer answers project out
        rw [← trace]
        rfl

end Run

/-! ## A listener that fails on one page -/

/-- The address of the page that an event is about, for a run that of none. -/
def Occasion.address : Occasion → String
  | run _ _ => ""
  | page current => current.address

/-- The last event of every page but that of a class adds a mark to its contents. -/
def markPage : EventAnswer
  | .run _ _ => .ok none
  | .page page =>
    if page.address.startsWith "classes/" then .error (.listener "ValueError" "no classes")
    else .ok (some (page.contents ++ "<!-- end -->"))

def markingAnswers : Answers where
  hooks
    | .bodyEnd => [fun _ => .ok (some "<footer></footer>")]
    | _ => []
  events
    | .pageEnd => [markPage]
    | _ => []

/-- A renderer whose listener notes the addresses it is told of. -/
def markingRenderer : Renderer (List String) :=
  { logger := .new .silent .none
    options := Options.initial
    environment := .bare
    hooks := Hooks.empty.on .bodyEnd (fun _ => pure (some "<footer></footer>")) 0
    events := Hooks.empty.on .pageEnd
      (fun occasion => do
        modify (· ++ [occasion.address])
        liftM (markPage occasion)) 0
    disk := { tree := .directory [("site", .directory [("old.html", .file [1])])]
              workingDirectory := [] }
    observed := [] }

theorem markPage_run (occasion : Occasion) (observed : List String) :
    ((do
      modify (· ++ [occasion.address])
      liftM (markPage occasion) : Listening (List String) (Option String)).run observed).1 =
        markPage occasion := by
  cases markPage occasion <;> rfl

theorem markingRenderer_answersAs : AnswersAs markingRenderer markingAnswers where
  hooks := by
    refine ⟨?_, ?_⟩
    · intro point
      cases point <;> decide +kernel
    · intro point
      cases point <;> first
        | exact List.Forall₂.nil
        | exact List.Forall₂.cons (fun _ _ => rfl) List.Forall₂.nil
  events := by
    refine ⟨?_, ?_⟩
    · intro event
      cases event <;> decide +kernel
    · intro event
      cases event <;> first
        | exact List.Forall₂.nil
        | exact List.Forall₂.cons markPage_run List.Forall₂.nil

theorem failing_pages_are_isolated_class :
    ∃ after,
      (render quotedProject (Path.ofString "site")).run markingRenderer = (.ok (), after) ∧
        after.disk.HoldsExactly ["site"]
          (siteFiles markingAnswers Options.initial [] quotedProject) ∧
        after.logger.errors = 1 ∧
        after.observed =
          ["index.html", "modules/\"a\"&<b>.html", "classes/\"a\"&<b>....html"] := by
  have plain : PlainNames quotedProject := by
    intro place member _
    revert place
    decide +kernel
  have accepted : refusal? markingRenderer.environment markingRenderer.disk
      (markingRenderer.options.textsOf .inputFiles) (Path.ofString "site") = .ok none := by
    rfl
  have returns :
      ((render quotedProject (Path.ofString "site")).run markingRenderer).1.isOk = true := by
    decide +kernel
  have succeed : ∀ event ∈ [RenderEvent.renderBegin, .renderEnd],
      ∀ answer ∈ markingAnswers.events event,
        ∃ reply, answer (.run quotedProject (Path.ofString "site")) = .ok reply := by
    intro event member answer answerMember
    simp only [List.mem_cons, List.not_mem_nil, or_false] at member
    rcases member with rfl | rfl <;> cases answerMember
  have written (fault : FileFault) :
      ((render quotedProject (Path.ofString "site")).run markingRenderer).1 ≠
        .error (.file fault) := by
    intro failed
    rw [failed] at returns
    cases returns
  obtain ⟨after, ran, holds, _, errors, _, observed⟩ := failing_pages_are_isolated
    quotedProject_shaped plain (by decide +kernel) markingRenderer_answersAs accepted succeed
    written
  refine ⟨after, ran, holds, ?_, ?_⟩
  · rw [errors]
    decide +kernel
  · rw [observed]
    decide +kernel

end Site

end ApiDocs
