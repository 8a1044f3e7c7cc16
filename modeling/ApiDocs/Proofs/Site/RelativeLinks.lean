import ApiDocs.Proofs.Site.Addresses
import ApiDocs.Site.Page

/-!
# Relative links

A link from a page to an address goes up out of the directories that the page does not share with
the address, and then down.  Followed from the page it leads to the address, wherever the site
stands.
-/

namespace ApiDocs

/-! ## Pieces of addresses -/

namespace Text

theorem intercalate_splitOn (separator : Char) (text : List Char) :
    [separator].intercalate (splitOn separator text) = text := by
  induction text with
  | nil => simp [splitOn]
  | cons head tail inductionHypothesis =>
      obtain ⟨piece, pieces, split⟩ := List.exists_cons_of_ne_nil (splitOn_ne_nil separator tail)
      rw [splitOn, split]
      rw [split] at inductionHypothesis
      by_cases same : head = separator
      · simp [same, List.intercalate_cons_cons, inductionHypothesis]
      · have begins : [separator].intercalate ((head :: piece) :: pieces) =
            head :: [separator].intercalate (piece :: pieces) := by
          cases pieces <;> simp [List.intercalate_cons_cons]
        simp [same, begins, inductionHypothesis]

end Text

namespace Path

theorem intercalate_pieces (text : String) : "/".intercalate (pieces text) = text := by
  have characters : (pieces text).map String.toList = Text.splitOn '/' text.toList := by
    simp [pieces, Function.comp_def]
  rw [← String.toList_inj, String.toList_intercalate, characters]
  exact Text.intercalate_splitOn '/' text.toList

theorem exists_pieces_eq_concat (text : String) :
    ∃ directories file, pieces text = directories ++ [file] := by
  have nonempty : pieces text ≠ [] := by
    rw [pieces, Ne, List.map_eq_nil_iff]
    exact Text.splitOn_ne_nil '/' text.toList
  obtain ⟨directories, file, split⟩ := (List.eq_nil_or_concat _).resolve_left nonempty
  exact ⟨directories, file, split.trans List.concat_eq_append⟩

end Path

namespace Site

open ApiDocs.Path

/-- A relative address in which no component is empty or made of one or two dots. -/
def IsPlain (address : String) : Prop :=
  ∀ piece ∈ pieces address, piece ≠ "" ∧ piece ≠ "." ∧ piece ≠ ".."

instance (address : String) : Decidable (IsPlain address) :=
  inferInstanceAs (Decidable (∀ piece ∈ pieces address, _))

theorem IsPlain.isName {address : String} (plain : IsPlain address) :
    ∀ piece ∈ pieces address, IsName piece := by
  intro piece member
  obtain ⟨notEmpty, notDot, notDots⟩ := plain piece member
  refine ⟨notEmpty, notDot, notDots, ?_⟩
  obtain ⟨characters, split, rfl⟩ := List.mem_map.mp member
  rw [String.toList_ofList]
  exact Text.notMem_of_mem_splitOn split

theorem IsPlain.ne_empty {address : String} (plain : IsPlain address) : address ≠ "" := by
  rintro rfl
  exact (plain "" (by decide)).1 rfl

/-! ## Links -/

/-- The text of a link that goes along the given components. -/
def linkText (parts : List String) : String :=
  if parts = [] then "." else "/".intercalate parts

variable {page target : String}

theorem absoluteComponents_of_isPlain (plain : IsPlain target) (directory : List String) :
    absoluteComponents directory target = directory ++ pieces target := by
  have absolute := absoluteComponents_intercalate plain.isName directory
  rwa [intercalate_pieces] at absolute

theorem absoluteComponents_directoryOf (plain : IsPlain page) (directory : List String) :
    absoluteComponents directory (directoryOf page) = directory ++ (pieces page).dropLast := by
  obtain ⟨directories, file, split⟩ := exists_pieces_eq_concat page
  have names := plain.isName
  rw [split] at names
  have directoryNames : ∀ name ∈ directories, IsName name := fun name member =>
    names name (List.mem_append_left [file] member)
  have fileName := names file (List.mem_append_right directories List.mem_cons_self)
  have inDirectory := directoryOf_intercalate
    (fun name member => (directoryNames name member).isPart) fileName.no_slash
  rw [← split, intercalate_pieces] at inDirectory
  rw [inDirectory, absoluteComponents_intercalate directoryNames, split, List.dropLast_concat]

section Plain

variable (pagePlain : IsPlain page) (targetPlain : IsPlain target)
include pagePlain targetPlain

/-- What the working directory adds to both ends of a link does not count. -/
theorem between_absoluteComponents (directory : List String) :
    between (absoluteComponents directory (directoryOf page))
        (absoluteComponents directory target) =
      linkText (route (pieces page).dropLast (pieces target)) := by
  rw [absoluteComponents_directoryOf pagePlain, absoluteComponents_of_isPlain targetPlain,
    between_append, between_eq]
  rfl

theorem follow_linkText :
    follow page (linkText (route (pieces page).dropLast (pieces target))) = target := by
  obtain ⟨directories, file, split⟩ := exists_pieces_eq_concat page
  have names := pagePlain.isName
  rw [split] at names
  have leads := follow_between
    (fun name member => names name (List.mem_append_left [file] member))
    (names file (List.mem_append_right directories List.mem_cons_self)).no_slash
    targetPlain.isName (Text.splitOn_ne_nil '/' target.toList ∘ List.map_eq_nil_iff.mp) []
  rw [← split, intercalate_pieces, intercalate_pieces] at leads
  rw [← between_absoluteComponents pagePlain targetPlain [],
    absoluteComponents_directoryOf pagePlain, absoluteComponents_of_isPlain targetPlain, split,
    List.dropLast_concat]
  exact leads

/-- A link from a page to an address is the same in every working directory.  It goes up, and then
down along the last components of the address, and leads from the page to the address. -/
theorem relativeAddress_leads_back :
    ∃ link ups rest,
      (∀ directory, relativeAddress directory page target = .ok link) ∧
        (∀ context : Context, context.page.address = page → context.linkTo target = link) ∧
        link = linkText (List.replicate ups ".." ++ rest) ∧
        rest <:+ pieces target ∧
        Relative link ∧
        follow page link = target := by
  let shared := commonLength (pieces page).dropLast (pieces target)
  refine ⟨linkText (route (pieces page).dropLast (pieces target)),
    (pieces page).dropLast.length - shared, (pieces target).drop shared, fun directory => ?_, ?_,
    rfl, List.drop_suffix _ _, ?_, follow_linkText pagePlain targetPlain⟩
  · rw [relativeAddress, if_neg targetPlain.ne_empty,
      between_absoluteComponents pagePlain targetPlain]
  · rintro context rfl
    exact between_absoluteComponents pagePlain targetPlain context.directory
  · rw [linkText, ← between_eq]
    exact relative_between targetPlain.isName

end Plain

/-- A link to a directory above the page, and one to the directory of the page itself. -/
theorem relativeAddress_leads_back_above :
    relativeAddress ["work"] "a/b/c.html" "a" = .ok ".." ∧ follow "a/b/c.html" ".." = "a" ∧
      relativeAddress ["a"] "a/c.html" "a" = .ok "." ∧ follow "a/c.html" "." = "a" := by
  have plain : IsPlain "a/b/c.html" ∧ IsPlain "a/c.html" ∧ IsPlain "a" := by decide +kernel
  obtain ⟨above, _, _, links, _, _, _, _, leads⟩ := relativeAddress_leads_back plain.1 plain.2.2
  obtain ⟨here, _, _, linksHere, _, _, _, _, leadsHere⟩ :=
    relativeAddress_leads_back plain.2.1 plain.2.2
  have linkAbove : relativeAddress ["work"] "a/b/c.html" "a" = .ok ".." := by
    rw [relativeAddress, if_neg (by decide)]
    exact congrArg Except.ok (by decide +kernel)
  have linkHere : relativeAddress ["a"] "a/c.html" "a" = .ok "." := by
    rw [relativeAddress, if_neg (by decide)]
    exact congrArg Except.ok (by decide +kernel)
  obtain rfl := Except.ok.inj ((links ["work"]).symm.trans linkAbove)
  obtain rfl := Except.ok.inj ((linksHere ["a"]).symm.trans linkHere)
  exact ⟨linkAbove, leads, linkHere, leadsHere⟩

end Site

end ApiDocs
