import ApiDocs.Proofs.Files.Changes
import ApiDocs.Proofs.Files.Names
import ApiDocs.Site.Address
import Mathlib.Data.List.Basic
import Mathlib.Data.List.TakeWhile

/-!
# Addresses and links

Following a link from a page means joining it to the directory of the page and removing the
components that go up.  A link between two addresses leads to its target, whatever the working
directory is that both are read from.
-/

namespace ApiDocs

/-! ## Components of addresses -/

/-- What a path can have as a component: a name, or the two dots that go up. -/
structure IsPart (part : String) : Prop where
  ne_empty : part ≠ ""
  ne_dot : part ≠ "."
  no_slash : '/' ∉ part.toList

theorem IsName.isPart {name : String} (isName : IsName name) : IsPart name :=
  ⟨isName.ne_empty, isName.ne_dot, isName.no_slash⟩

theorem isPart_dots : IsPart ".." := ⟨by decide, by decide, by decide⟩

namespace Text

theorem splitOn_ne_nil (separator : Char) (text : List Char) : splitOn separator text ≠ [] := by
  have noSeparator : separator ∉ ([] : List Char) := List.not_mem_nil
  obtain ⟨pieces, piece, split⟩ := splitOn_append noSeparator text
  rw [List.append_nil] at split
  rw [split]
  exact List.append_ne_nil_of_right_ne_nil pieces (List.cons_ne_nil _ _)

theorem splitOn_append_cons (separator : Char) (first second : List Char) :
    splitOn separator (first ++ separator :: second) =
      splitOn separator first ++ splitOn separator second := by
  induction first with
  | nil =>
      obtain ⟨piece, pieces, split⟩ := List.exists_cons_of_ne_nil (splitOn_ne_nil separator second)
      rw [List.nil_append, splitOn, split, splitOn]
      simp [split]
  | cons head tail inductionHypothesis =>
      obtain ⟨piece, pieces, split⟩ := List.exists_cons_of_ne_nil (splitOn_ne_nil separator tail)
      rw [List.cons_append, splitOn, inductionHypothesis, splitOn, split]
      by_cases same : head == separator
      · simp [same]
      · simp [same]

theorem notMem_of_mem_splitOn {separator : Char} {text piece : List Char}
    (member : piece ∈ splitOn separator text) : separator ∉ piece := by
  induction text generalizing piece with
  | nil =>
      rw [splitOn, List.mem_singleton] at member
      simp [member]
  | cons head tail inductionHypothesis =>
      obtain ⟨first, rest, split⟩ := List.exists_cons_of_ne_nil (splitOn_ne_nil separator tail)
      rw [splitOn, split] at member
      rw [split] at inductionHypothesis
      by_cases same : head = separator
      · simp only [same, beq_self_eq_true, if_true] at member
        rcases List.mem_cons.mp member with rfl | inTail
        · exact List.not_mem_nil
        · exact inductionHypothesis inTail
      · simp only [beq_eq_false_iff_ne.mpr same, Bool.false_eq_true, if_false] at member
        rcases List.mem_cons.mp member with rfl | inRest
        · rw [List.mem_cons, not_or]
          exact ⟨Ne.symm same, inductionHypothesis List.mem_cons_self⟩
        · exact inductionHypothesis (List.mem_cons_of_mem first inRest)

end Text

namespace Path

theorem components_append_slash (first second : String) :
    components (first ++ "/" ++ second) = components first ++ components second := by
  have characters : (first ++ "/" ++ second).toList = first.toList ++ '/' :: second.toList := by
    simp
  rw [components, pieces, characters, Text.splitOn_append_cons, List.map_append,
    List.filter_append]
  rfl

theorem components_part {part : String} (isPart : IsPart part) : components part = [part] := by
  have counts : (part ≠ "" && part ≠ ".") = true := by
    rw [Bool.and_eq_true, decide_eq_true_iff, decide_eq_true_iff]
    exact ⟨isPart.ne_empty, isPart.ne_dot⟩
  rw [components, pieces, Text.splitOn_of_notMem isPart.no_slash, List.map_singleton,
    String.ofList_toList, List.filter_cons_of_pos (by exact counts), List.filter_nil]

theorem components_intercalate {parts : List String} (areParts : ∀ part ∈ parts, IsPart part) :
    components ("/".intercalate parts) = parts := by
  induction parts with
  | nil => decide
  | cons first rest inductionHypothesis =>
      have firstPart := components_part (areParts first List.mem_cons_self)
      cases rest with
      | nil => rw [String.intercalate_singleton, firstPart]
      | cons second others =>
          have restParts := inductionHypothesis fun part member =>
            areParts part (List.mem_cons_of_mem first member)
          rw [String.intercalate_cons_cons, components_append_slash, firstPart, restParts,
            List.singleton_append]

/-! ## Roots -/

/-- A text that does not begin with a slash is a relative path. -/
def Relative (text : String) : Prop := text.toList.head? ≠ some '/'

theorem rootOf_of_relative {text : String} (relative : Relative text) :
    rootOf text.toList = "" := by
  rw [Relative] at relative
  cases characters : text.toList with
  | nil => rfl
  | cons first rest =>
      rw [characters, List.head?_cons] at relative
      have isElse : first ≠ '/' := fun same => relative (congrArg some same)
      unfold rootOf
      split <;> simp_all

theorem Relative.not_startsWith {text : String} (relative : Relative text) :
    ¬ text.startsWith "/" = true := by
  rw [String.startsWith_string_iff]
  rintro ⟨rest, whole⟩
  rw [Relative, ← whole] at relative
  exact relative rfl

theorem Relative.append
    {text : String} (relative : Relative text) (nonempty : text ≠ "") (rest : String) :
    Relative (text ++ rest) := by
  obtain ⟨first, others, characters⟩ :=
    List.exists_cons_of_ne_nil (mt String.toList_eq_nil_iff.mp nonempty)
  rw [Relative, characters] at relative
  rw [Relative, String.toList_append, characters]
  exact relative

theorem relative_part {part : String} (isPart : IsPart part) : Relative part := by
  intro begins
  exact isPart.no_slash (List.mem_of_mem_head? begins)

theorem ofString_name {name : String} (isName : IsName name) :
    ofString name = { root := "", parts := [name] } := by
  rw [ofString, rootOf_of_relative (relative_part isName.isPart), components_part isName.isPart]

theorem text_ofString_name {name : String} (isName : IsName name) :
    (ofString name).text = name := by
  rw [ofString_name isName]
  simp [text, isName.ne_empty]

theorem relative_intercalate {parts : List String} (areParts : ∀ part ∈ parts, IsPart part) :
    Relative ("/".intercalate parts) := by
  cases parts with
  | nil => exact fun begins => by cases begins
  | cons first rest =>
      have firstPart := areParts first List.mem_cons_self
      cases rest with
      | nil =>
          rw [String.intercalate_singleton]
          exact relative_part firstPart
      | cons second others =>
          rw [String.intercalate_cons_cons, String.append_assoc]
          exact (relative_part firstPart).append firstPart.ne_empty _

theorem intercalate_ne_empty
    {parts : List String} (areParts : ∀ part ∈ parts, IsPart part) (nonempty : parts ≠ []) :
    "/".intercalate parts ≠ "" := by
  intro empty
  have none := components_intercalate areParts
  rw [empty] at none
  exact nonempty (none.symm.trans (by decide))

theorem intercalate_concat
    {parts : List String} (nonempty : parts ≠ []) (last : String) :
    "/".intercalate (parts ++ [last]) = "/".intercalate parts ++ "/" ++ last := by
  induction parts with
  | nil => exact absurd rfl nonempty
  | cons first rest inductionHypothesis =>
      cases rest with
      | nil => rfl
      | cons second others =>
          have deeper := inductionHypothesis (List.cons_ne_nil second others)
          rw [List.cons_append, List.cons_append, String.intercalate_cons_cons,
            ← List.cons_append, deeper, String.intercalate_cons_cons]
          simp only [String.append_assoc]

end Path

namespace Site

open ApiDocs.Path

/-! ## Following links -/

/-- A link is joined to the directory that it stands in; one that begins with a slash stands for
itself. -/
def joinAddress (directory link : String) : String :=
  if link.startsWith "/" then link
  else if directory = "" || directory.endsWith "/" then directory ++ link
  else directory ++ "/" ++ link

/-- One component further along an address: two dots take a name back.  At the start of a relative
address they stay, and at the root they lead to the root. -/
def normalStep (absolute : Bool) (parts : List String) (part : String) : List String :=
  if part ≠ ".." then parts ++ [part]
  else
    match parts.getLast? with
    | none => if absolute then [] else [".."]
    | some last => if last = ".." then parts ++ [".."] else parts.dropLast

/-- An address without the components that can be taken back. -/
def normalise (address : String) : String :=
  let path := Path.ofString address
  { path with parts := path.parts.foldl (normalStep path.isAbsolute) [] : Path }.text

/-- The address that a link leads to from a page. -/
def follow (page link : String) : String := normalise (joinAddress (directoryOf page) link)

theorem components_joinAddress
    (directory : String) {link : String} (relative : Relative link) :
    components (joinAddress directory link) = components directory ++ components link := by
  rw [joinAddress, if_neg relative.not_startsWith]
  by_cases empty : directory = ""
  · rw [empty, if_pos (by decide), String.empty_append]
    rfl
  · by_cases ends : directory.endsWith "/" = true
    · obtain ⟨start, whole⟩ := (endsWith_iff directory "/").mp ends
      have split : directory = String.ofList start ++ "/" := by
        rw [← String.toList_inj, ← whole]
        simp
      have startComponents := components_append_slash (String.ofList start) ""
      rw [String.append_empty, ← split] at startComponents
      rw [if_pos (by simp [ends]), startComponents, split, components_append_slash]
      have nothing : components "" = [] := by decide
      rw [nothing, List.append_nil]
    · rw [if_neg (by simp [empty, ends]), components_append_slash]

theorem relative_joinAddress
    {directory link : String} (relative : Relative directory) (linkRelative : Relative link) :
    Relative (joinAddress directory link) := by
  rw [joinAddress, if_neg linkRelative.not_startsWith]
  by_cases empty : directory = ""
  · rw [empty, if_pos (by decide), String.empty_append]
    exact linkRelative
  · split
    · exact relative.append empty link
    · rw [String.append_assoc]
      exact relative.append empty _

/-- A relative address is made normal component by component. -/
theorem normalise_of_relative {address : String} (relative : Relative address) :
    normalise address =
      ({ root := "", parts := (components address).foldl (normalStep false) [] } : Path).text := by
  rw [normalise, Path.ofString, rootOf_of_relative relative]
  rfl

/-! ## Directories of addresses -/

theorem directoryOf_name {name : String} (noSlash : '/' ∉ name.toList) : directoryOf name = "" := by
  have dropped : name.toList.reverse.dropWhile (· ≠ '/') = [] := by
    rw [List.dropWhile_eq_nil_iff]
    intro character member
    rw [List.mem_reverse] at member
    exact decide_eq_true fun same : character = '/' => noSlash (same ▸ member)
  rw [directoryOf, dropped]
  rfl

/-- The directory of an address below a directory is that directory. -/
theorem directoryOf_below
    {directory name : String} (noSlash : '/' ∉ name.toList)
    (ends : directory.toList.getLast? ≠ some '/') (nonempty : directory ≠ "") :
    directoryOf (directory ++ "/" ++ name) = directory := by
  have characters : (directory ++ "/" ++ name).toList.reverse =
      name.toList.reverse ++ '/' :: directory.toList.reverse := by
    simp
  have passed : ∀ character ∈ name.toList.reverse, decide (character ≠ '/') = true := by
    intro character member
    rw [List.mem_reverse] at member
    exact decide_eq_true fun same : character = '/' => noSlash (same ▸ member)
  have kept : ((directory ++ "/" ++ name).toList.reverse.dropWhile (· ≠ '/')).reverse =
      directory.toList ++ ['/'] := by
    rw [characters, List.dropWhile_append_of_pos passed, List.dropWhile_cons_of_neg (by simp)]
    simp
  have trimmed : Text.trimEndOf '/' (directory.toList ++ ['/']) = directory.toList := by
    rw [Text.trimEndOf, List.reverse_append, List.reverse_singleton, List.singleton_append,
      List.dropWhile_cons_of_pos (by simp)]
    obtain ⟨start, last, split⟩ :=
      List.eq_nil_or_concat directory.toList |>.resolve_left
        (mt String.toList_eq_nil_iff.mp nonempty)
    rw [split, List.concat_eq_append, List.getLast?_concat] at ends
    have isElse : (last == '/') = false := by
      simpa using fun same : last = '/' => ends (congrArg some same)
    rw [split, List.concat_eq_append, List.reverse_append, List.reverse_singleton,
      List.singleton_append, List.dropWhile_cons_of_neg (by simp [isElse])]
    simp
  rw [directoryOf, kept]
  simp only [trimmed]
  rw [if_neg (by simpa using nonempty), String.ofList_toList]

theorem getLast?_intercalate
    {parts : List String} (areParts : ∀ part ∈ parts, IsPart part) :
    ("/".intercalate parts).toList.getLast? ≠ some '/' := by
  rcases List.eq_nil_or_concat parts with rfl | ⟨start, last, rfl⟩
  · exact fun ends => by cases ends
  · rw [List.concat_eq_append] at areParts ⊢
    have lastPart := areParts last (List.mem_append_right start List.mem_cons_self)
    have lastEnds : last.toList.getLast? ≠ some '/' := fun ends =>
      lastPart.no_slash (List.mem_of_getLast? ends)
    by_cases alone : start = []
    · rw [alone, List.nil_append, String.intercalate_singleton]
      exact lastEnds
    · rw [intercalate_concat alone, String.toList_append, List.getLast?_append_of_ne_nil]
      · exact lastEnds
      · exact mt String.toList_eq_nil_iff.mp lastPart.ne_empty

theorem directoryOf_intercalate
    {directories : List String} (areParts : ∀ part ∈ directories, IsPart part)
    {file : String} (noSlash : '/' ∉ file.toList) :
    directoryOf ("/".intercalate (directories ++ [file])) = "/".intercalate directories := by
  by_cases top : directories = []
  · rw [top, List.nil_append, String.intercalate_singleton, directoryOf_name noSlash]
    rfl
  · rw [intercalate_concat top]
    exact directoryOf_below noSlash (getLast?_intercalate areParts)
      (intercalate_ne_empty areParts top)

/-! ## Links between places -/

section Links

variable {directories target : List String}

theorem commonLength_append (start first second : List String) :
    commonLength (start ++ first) (start ++ second) =
      start.length + commonLength first second := by
  induction start with
  | nil => simp
  | cons head tail inductionHypothesis =>
      rw [List.cons_append, List.cons_append, commonLength, if_pos rfl, inductionHypothesis,
        List.length_cons]
      omega

theorem commonLength_le_length (first second : List String) :
    commonLength first second ≤ first.length := by
  induction first generalizing second with
  | nil => simp [commonLength]
  | cons head tail inductionHypothesis =>
      cases second with
      | nil => simp [commonLength]
      | cons other others =>
          have deeper := inductionHypothesis others
          rw [commonLength, List.length_cons]
          split <;> omega

theorem take_commonLength (first second : List String) :
    first.take (commonLength first second) = second.take (commonLength first second) := by
  induction first generalizing second with
  | nil => simp [commonLength]
  | cons head tail inductionHypothesis =>
      cases second with
      | nil => simp [commonLength]
      | cons other others =>
          rw [commonLength]
          split
          · rename_i same
            rw [List.take_succ_cons, List.take_succ_cons, inductionHypothesis, same]
          · rfl

/-- A link does not depend on what lies above both of its ends. -/
theorem between_append (above source target : List String) :
    between (above ++ source) (above ++ target) = between source target := by
  have steps : (above ++ source).length - (above.length + commonLength source target) =
      source.length - commonLength source target := by
    rw [List.length_append]
    omega
  have rest : (above ++ target).drop (above.length + commonLength source target) =
      target.drop (commonLength source target) := by
    rw [← List.drop_drop, List.drop_left]
  rw [between, commonLength_append]
  simp only [steps, rest]
  rfl

/-- The components of a link: up to what both ends share, then down. -/
def route (source target : List String) : List String :=
  List.replicate (source.length - commonLength source target) ".." ++
    target.drop (commonLength source target)

theorem isPart_of_mem_route
    {source : List String} (names : ∀ name ∈ target, IsName name) :
    ∀ part ∈ route source target, IsPart part := by
  intro part member
  rcases List.mem_append.mp member with up | down
  · rw [List.eq_of_mem_replicate up]
    exact isPart_dots
  · exact (names part (List.mem_of_mem_drop down)).isPart

theorem between_eq (source target : List String) :
    between source target =
      if route source target = [] then "." else "/".intercalate (route source target) := by
  have links (parts : List String) (isRoute : route source target = parts) :
      between source target = if parts = [] then "." else "/".intercalate parts := by
    unfold route at isRoute
    unfold between
    dsimp only
    rw [isRoute]
    cases parts with
    | nil => rfl
    | cons first rest => rfl
  exact links _ rfl

theorem components_between {source : List String} (names : ∀ name ∈ target, IsName name) :
    components (between source target) = route source target := by
  rw [between_eq]
  by_cases here : route source target = []
  · rw [if_pos here, here]
    decide
  · rw [if_neg here, components_intercalate (isPart_of_mem_route names)]

theorem relative_between {source : List String} (names : ∀ name ∈ target, IsName name) :
    Relative (between source target) := by
  rw [between_eq]
  split
  · exact fun begins => by cases begins
  · exact relative_intercalate (isPart_of_mem_route names)

theorem between_ne_empty {source : List String} (names : ∀ name ∈ target, IsName name) :
    between source target ≠ "" := by
  rw [between_eq]
  split
  · decide
  · rename_i further
    exact intercalate_ne_empty (isPart_of_mem_route names) further

theorem absoluteComponents_intercalate
    (names : ∀ name ∈ target, IsName name) (workingDirectory : List String) :
    absoluteComponents workingDirectory ("/".intercalate target) = workingDirectory ++ target := by
  have areParts : ∀ part ∈ target, IsPart part := fun part member => (names part member).isPart
  rw [absoluteComponents, if_neg (relative_intercalate areParts).not_startsWith,
    components_intercalate areParts,
    Disk.foldl_step_of_ne fun part member => (names part member).ne_dots]

/-! ## Where links lead -/

theorem foldl_normalStep_names
    (names : ∀ name ∈ target, IsName name) (parts : List String) :
    target.foldl (normalStep false) parts = parts ++ target := by
  induction target generalizing parts with
  | nil => exact (List.append_nil parts).symm
  | cons name others inductionHypothesis =>
      have further : normalStep false parts name = parts ++ [name] :=
        if_pos (names name List.mem_cons_self).ne_dots
      rw [List.foldl_cons, further,
        inductionHypothesis fun other member => names other (List.mem_cons_of_mem name member),
        List.append_assoc, List.singleton_append]

/-- Going up takes back as many names as there are components that go up. -/
theorem foldl_normalStep_up
    {parts : List String} (names : ∀ name ∈ parts, IsName name)
    {count : Nat} (enough : count ≤ parts.length) :
    (List.replicate count "..").foldl (normalStep false) parts =
      parts.take (parts.length - count) := by
  induction count generalizing parts with
  | zero => simp
  | succ count inductionHypothesis =>
      obtain ⟨start, last, rfl⟩ := List.eq_nil_or_concat parts |>.resolve_left (by
        rintro rfl
        simp at enough)
      rw [List.concat_eq_append] at names enough ⊢
      have lastNamed := names last (List.mem_append_right start List.mem_cons_self)
      have back : normalStep false (start ++ [last]) ".." = start := by
        rw [normalStep, if_neg (by simp), List.getLast?_concat]
        simp [lastNamed.ne_dots]
      rw [List.length_append, List.length_singleton] at enough
      rw [List.replicate_succ, List.foldl_cons, back,
        inductionHypothesis (fun name member => names name (List.mem_append_left _ member))
          (by omega),
        List.length_append, List.length_singleton, List.take_append_of_le_length (by omega)]
      congr 1
      omega

theorem foldl_normalStep_route
    (directoriesNamed : ∀ name ∈ directories, IsName name)
    (targetNamed : ∀ name ∈ target, IsName name) :
    (directories ++ route directories target).foldl (normalStep false) [] = target := by
  have shared := commonLength_le_length directories target
  have left : directories.length - (directories.length - commonLength directories target) =
      commonLength directories target := by
    omega
  rw [List.foldl_append, foldl_normalStep_names directoriesNamed, List.nil_append, route,
    List.foldl_append, foldl_normalStep_up directoriesNamed (by omega), left,
    foldl_normalStep_names fun name member => targetNamed name (List.mem_of_mem_drop member),
    take_commonLength, List.take_append_drop]

variable {file link : String} {rest : List String}

/-- A link that goes on from the place of a target leads below the target. -/
theorem follow_of_components
    (directoriesNamed : ∀ name ∈ directories, IsName name)
    (noSlash : '/' ∉ file.toList)
    (targetNamed : ∀ name ∈ target, IsName name)
    (restNamed : ∀ name ∈ rest, IsName name)
    (nonempty : target ++ rest ≠ [])
    (relative : Relative link)
    (leads : components link = route directories target ++ rest) :
    follow ("/".intercalate (directories ++ [file])) link = "/".intercalate (target ++ rest) := by
  have areParts : ∀ part ∈ directories, IsPart part := fun part member =>
    (directoriesNamed part member).isPart
  have ends : ∀ part ∈ target ++ rest, IsPart part := fun part member =>
    (List.mem_append.mp member).elim (fun inTarget => (targetNamed part inTarget).isPart)
      fun inRest => (restNamed part inRest).isPart
  rw [follow, directoryOf_intercalate areParts noSlash,
    normalise_of_relative (relative_joinAddress (relative_intercalate areParts) relative),
    components_joinAddress _ relative, components_intercalate areParts, leads,
    ← List.append_assoc, List.foldl_append,
    foldl_normalStep_route directoriesNamed targetNamed, foldl_normalStep_names restNamed,
    Path.text, if_neg (by simpa using intercalate_ne_empty ends nonempty), String.empty_append]

/-- The link from a page to an address leads to that address. -/
theorem follow_between
    (directoriesNamed : ∀ name ∈ directories, IsName name)
    (noSlash : '/' ∉ file.toList)
    (targetNamed : ∀ name ∈ target, IsName name)
    (nonempty : target ≠ [])
    (workingDirectory : List String) :
    follow ("/".intercalate (directories ++ [file]))
        (between (workingDirectory ++ directories) (workingDirectory ++ target)) =
      "/".intercalate target := by
  have components : components (between directories target) = route directories target ++ [] :=
    (components_between targetNamed).trans (List.append_nil _).symm
  have leads := follow_of_components directoriesNamed noSlash targetNamed
    (List.forall_mem_nil _) (by rwa [List.append_nil]) (relative_between targetNamed) components
  rw [between_append, leads, List.append_nil]

/-- A link to a directory, with a name appended, leads to the file of that name in it. -/
theorem follow_between_slash
    (directoriesNamed : ∀ name ∈ directories, IsName name)
    (noSlash : '/' ∉ file.toList)
    (targetNamed : ∀ name ∈ target, IsName name)
    {name : String} (isName : IsName name)
    (workingDirectory : List String) :
    follow ("/".intercalate (directories ++ [file]))
        (between (workingDirectory ++ directories) (workingDirectory ++ target) ++ "/" ++ name) =
      "/".intercalate (target ++ [name]) := by
  rw [between_append]
  refine follow_of_components directoriesNamed noSlash targetNamed
    (List.forall_mem_singleton.mpr isName) (by simp) ?_ ?_
  · rw [String.append_assoc]
    exact (relative_between targetNamed).append (between_ne_empty targetNamed) _
  · rw [components_append_slash, components_between targetNamed, components_part isName.isPart]

end Links

end Site

end ApiDocs
