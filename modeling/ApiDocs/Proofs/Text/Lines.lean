import ApiDocs.Text.Lines
import Mathlib.Data.List.DropRight

/-!
# Lines of a text

How the lines of a text in two parts come from the lines of the parts, and what trimming leaves of
the lines of a text.
-/

namespace ApiDocs.Text

/-! ## The first character -/

section First

variable {head : Char} {rest : List Char}

theorem lines_lineFeed (rest : List Char) : lines ('\n' :: rest) = [] :: lines rest := by
  rw [lines, if_pos (by decide)]
  intro _ isReturn
  cases isReturn

/-- A carriage return and a line feed that are not one line break are two. -/
theorem lines_break (isBreak : isLineBreak head = true)
    (single : head = '\r' → rest.head? ≠ some '\n') :
    lines (head :: rest) = [] :: lines rest := by
  rw [lines, if_pos isBreak]
  rintro further isReturn rfl
  exact single isReturn rfl

/-- A character before the first of some lines. -/
def onFirstLine (head : Char) : List (List Char) → List (List Char)
  | [] => [[head]]
  | line :: more => (head :: line) :: more

theorem lines_cons (noBreak : isLineBreak head = false) (rest : List Char) :
    lines (head :: rest) = onFirstLine head (lines rest) := by
  rw [lines, if_neg (by simp [noBreak])]
  · rfl
  · rintro further rfl
    exact absurd noBreak (by decide)

end First

/-- What holds of the empty text holds of every text if it is kept by a pair of a carriage return
and a line feed, by any other line break and by any other character in front. -/
theorem lineInduction {motive : List Char → Prop}
    (nil : motive [])
    (pair : ∀ rest, motive rest → motive ('\r' :: '\n' :: rest))
    (single : ∀ head rest, isLineBreak head = true →
      (head = '\r' → rest.head? ≠ some '\n') → motive rest → motive (head :: rest))
    (plain : ∀ head rest, isLineBreak head = false → motive rest → motive (head :: rest))
    (text : List Char) :
    motive text := by
  induction text using lines.induct with
  | case1 => exact nil
  | case2 rest inductionHypothesis => exact pair rest inductionHypothesis
  | case3 head rest notPair isBreak inductionHypothesis =>
      refine single head rest isBreak ?_ inductionHypothesis
      intro isReturn isFeed
      obtain ⟨further, rfl⟩ := List.head?_eq_some_iff.mp isFeed
      exact notPair further isReturn rfl
  | case4 head rest _ noBreak _ inductionHypothesis =>
      exact plain head rest (eq_false_of_ne_true noBreak) inductionHypothesis
  | case5 head rest _ noBreak _ _ _ inductionHypothesis =>
      exact plain head rest (eq_false_of_ne_true noBreak) inductionHypothesis

/-! ## A text in two parts -/

theorem onFirstLine_append (head : Char) {first : List (List Char)} (nonempty : first ≠ [])
    (second : List (List Char)) :
    onFirstLine head (first ++ second) = onFirstLine head first ++ second := by
  cases first with
  | nil => exact absurd rfl nonempty
  | cons line more => rfl

theorem lines_ne_nil {text : List Char} (nonempty : text ≠ []) : lines text ≠ [] := by
  fun_cases lines text with
  | case1 => exact absurd rfl nonempty
  | case2 | case3 | case4 | case5 => exact List.cons_ne_nil _ _

/-- A line break stands alone also where the text goes on behind what follows it. -/
theorem lines_break_append {head : Char} {rest : List Char} (isBreak : isLineBreak head = true)
    (single : head = '\r' → rest.head? ≠ some '\n') (unpaired : ¬ (head = '\r' ∧ rest = []))
    (further : List Char) :
    lines (head :: (rest ++ further)) = [] :: lines (rest ++ further) := by
  apply lines_break isBreak
  intro isReturn
  cases rest with
  | nil => exact absurd ⟨isReturn, rfl⟩ unpaired
  | cons next others => exact single isReturn

/-- A line feed parts the lines of a text. -/
theorem lines_append_lineFeed (first second : List Char) :
    lines (first ++ '\n' :: second) = lines (first ++ ['\n']) ++ lines second := by
  induction first using lineInduction with
  | nil =>
      rw [List.nil_append, List.nil_append, lines_lineFeed, lines_lineFeed]
      rfl
  | pair rest inductionHypothesis =>
      simp only [List.cons_append, lines, inductionHypothesis]
  | single head rest isBreak single inductionHypothesis =>
      by_cases pairs : head = '\r' ∧ rest = []
      · obtain ⟨rfl, rfl⟩ := pairs
        simp only [List.cons_append, List.nil_append, lines]
      · rw [List.cons_append, List.cons_append, lines_break_append isBreak single pairs,
          lines_break_append isBreak single pairs, inductionHypothesis, List.cons_append]
  | plain head rest noBreak inductionHypothesis =>
      have nonempty : lines (rest ++ ['\n']) ≠ [] := lines_ne_nil (by simp)
      rw [List.cons_append, List.cons_append, lines_cons noBreak, lines_cons noBreak,
        inductionHypothesis, onFirstLine_append head nonempty]

/-- A line feed at the end ends the last line, or is an empty line of its own. -/
theorem lines_concat_lineFeed (text : List Char) :
    lines (text ++ ['\n']) = lines text ∨ lines (text ++ ['\n']) = lines text ++ [[]] := by
  induction text using lineInduction with
  | nil => exact Or.inr rfl
  | pair rest inductionHypothesis =>
      simp only [List.cons_append, lines]
      exact inductionHypothesis.imp (congrArg _) (congrArg _)
  | single head rest isBreak single inductionHypothesis =>
      by_cases pairs : head = '\r' ∧ rest = []
      · obtain ⟨rfl, rfl⟩ := pairs
        exact Or.inl rfl
      · rw [List.cons_append, lines_break_append isBreak single pairs, lines_break isBreak single]
        exact inductionHypothesis.imp (congrArg _) (congrArg _)
  | plain head rest noBreak inductionHypothesis =>
      rw [List.cons_append, lines_cons noBreak, lines_cons noBreak]
      cases rest with
      | nil => exact Or.inl (by rw [List.nil_append, lines_lineFeed]; rfl)
      | cons next others =>
          have nonempty : lines (next :: others) ≠ [] := lines_ne_nil (List.cons_ne_nil _ _)
          rw [← onFirstLine_append head nonempty]
          exact inductionHypothesis.imp (congrArg _) (congrArg _)

/-- Two line feeds part the lines of a text by an empty line, or by two where a line ends in front of
them. -/
theorem lines_append_emptyLine (first second : List Char) :
    lines (first ++ '\n' :: '\n' :: second) = lines first ++ [] :: lines second ∨
      lines (first ++ '\n' :: '\n' :: second) = lines first ++ [] :: [] :: lines second := by
  rw [lines_append_lineFeed, lines_lineFeed]
  rcases lines_concat_lineFeed first with same | further
  · exact Or.inl (by rw [same])
  · exact Or.inr (by rw [further, List.append_assoc, List.singleton_append])

/-- Lines of which the last goes on with the first of some more. -/
def continueLines : List (List Char) → List (List Char) → List (List Char)
  | [], more => more
  | [last], [] => [last]
  | [last], first :: more => (last ++ first) :: more
  | line :: next :: rest, more => line :: continueLines (next :: rest) more

theorem continueLines_cons {rest : List (List Char)} (nonempty : rest ≠ [])
    (line : List Char) (more : List (List Char)) :
    continueLines (line :: rest) more = line :: continueLines rest more := by
  obtain ⟨next, others, rfl⟩ := List.exists_cons_of_ne_nil nonempty
  rw [continueLines]

theorem onFirstLine_continueLines (head : Char) (first more : List (List Char)) :
    onFirstLine head (continueLines first more) = continueLines (onFirstLine head first) more := by
  match first, more with
  | [], [] => rfl
  | [], line :: more => rfl
  | [last], [] => rfl
  | [last], line :: more => rfl
  | line :: next :: rest, more => rfl

/-- Where a text ends inside a line, the line goes on with what follows. -/
theorem lines_append (first second : List Char)
    (inside : ∀ last ∈ first.getLast?, isLineBreak last = false) :
    lines (first ++ second) = continueLines (lines first) (lines second) := by
  induction first using lineInduction with
  | nil => rfl
  | pair rest inductionHypothesis =>
      cases rest with
      | nil => exact absurd (inside '\n' rfl) (by decide)
      | cons next others =>
          have nonempty : lines (next :: others) ≠ [] := lines_ne_nil (List.cons_ne_nil _ _)
          have further := inductionHypothesis inside
          simp only [List.cons_append, lines] at further ⊢
          rw [continueLines_cons nonempty, further]
  | single head rest isBreak single inductionHypothesis =>
      cases rest with
      | nil => exact absurd isBreak (by rw [inside head rfl]; decide)
      | cons next others =>
          have nonempty : lines (next :: others) ≠ [] := lines_ne_nil (List.cons_ne_nil _ _)
          have unpaired : ¬ (head = '\r' ∧ next :: others = []) :=
            fun both => List.cons_ne_nil _ _ both.2
          rw [List.cons_append, lines_break_append isBreak single unpaired,
            lines_break isBreak single, continueLines_cons nonempty, inductionHypothesis inside]
  | plain head rest noBreak inductionHypothesis =>
      have restInside : ∀ last ∈ rest.getLast?, isLineBreak last = false := by
        cases rest with
        | nil => exact fun last member => nomatch member
        | cons next others => exact inside
      rw [List.cons_append, lines_cons noBreak, lines_cons noBreak,
        inductionHypothesis restInside, onFirstLine_continueLines]

/-! ## Trimming -/

section Trimming

variable {text blanks : List Char}

theorem trim_cons_blank {head : Char} (isBlank : isBlank head = true) (rest : List Char) :
    trim (head :: rest) = trim rest := by
  rw [trim, trim, trimStart, trimStart, List.dropWhile_cons_of_pos isBlank]

/-- White space at the end of a text is trimmed. -/
theorem trim_append_blank (text : List Char) (areBlank : ∀ character ∈ blanks, isBlank character) :
    trim (text ++ blanks) = trim text := by
  have none : blanks.dropWhile isBlank = [] := List.dropWhile_eq_nil_iff.mpr areBlank
  rw [trim, trim, trimStart, trimStart, List.dropWhile_append, none]
  split
  · rename_i empty
    rw [List.isEmpty_iff.mp empty]
  · have reversed : ∀ character ∈ blanks.reverse, isBlank character :=
      fun character member => areBlank character (List.mem_reverse.mp member)
    rw [trimEnd, trimEnd, List.reverse_append, List.dropWhile_append_of_pos reversed]

theorem trim_eq_nil_iff : trim text = [] ↔ ∀ character ∈ text, isBlank character := by
  induction text with
  | nil => exact iff_of_true rfl (List.forall_mem_nil _)
  | cons head rest inductionHypothesis =>
      by_cases isBlank : isBlank head = true
      · rw [trim_cons_blank isBlank, inductionHypothesis, List.forall_mem_cons]
        exact (and_iff_right isBlank).symm
      · rw [trim, trimStart, List.dropWhile_cons_of_neg isBlank, trimEnd,
          List.reverse_eq_nil_iff, List.dropWhile_eq_nil_iff]
        simp only [List.mem_reverse]

/-- A text is its trimmed form with white space around it. -/
theorem exists_trim_eq (text : List Char) :
    ∃ before after, text = before ++ (trim text ++ after) ∧
      (∀ character ∈ before, isBlank character) ∧ ∀ character ∈ after, isBlank character := by
  refine ⟨text.takeWhile isBlank, (text.dropWhile isBlank).rtakeWhile isBlank, ?_, ?_, ?_⟩
  · have ending : trim text ++ (text.dropWhile isBlank).rtakeWhile isBlank =
        text.dropWhile isBlank :=
      List.rdropWhile_append_rtakeWhile
    rw [ending, List.takeWhile_append_dropWhile]
  · exact fun character => List.mem_takeWhile_imp
  · exact fun character => List.mem_rtakeWhile_imp

theorem head?_trimStart (text : List Char) :
    ∀ head ∈ (trimStart text).head?, isBlank head = false := by
  intro head isHead
  have stops := List.head?_dropWhile_not isBlank text
  rw [← trimStart, Option.mem_def.mp isHead] at stops
  exact stops

theorem head?_trim (text : List Char) : ∀ head ∈ (trim text).head?, isBlank head = false := by
  intro head isHead
  obtain ⟨tail, split⟩ := List.head?_eq_some_iff.mp isHead
  have isPrefix : trim text <+: trimStart text := List.rdropWhile_prefix isBlank _
  obtain ⟨after, whole⟩ := isPrefix
  rw [split] at whole
  exact head?_trimStart text head (by rw [← whole]; rfl)

theorem getLast?_trim (text : List Char) :
    ∀ last ∈ (trim text).getLast?, isBlank last = false := by
  intro last isLast
  have stops := List.head?_dropWhile_not isBlank (trimStart text).reverse
  rw [trim, trimEnd, List.getLast?_reverse, Option.mem_def] at isLast
  rw [isLast] at stops
  exact stops

end Trimming

/-! ## Trimmed lines -/

/-- The lines of a text, each trimmed. -/
def trimmedLines (text : List Char) : List (List Char) := (lines text).map trim

/-- Line breaks are white space. -/
theorem isLineBreak_eq_false {character : Char} (notBlank : isBlank character = false) :
    isLineBreak character = false := by
  simp only [isLineBreak, isBlank, Bool.or_eq_false_iff, Bool.and_eq_false_iff,
    decide_eq_false_iff_not, beq_eq_false_iff_ne] at notBlank ⊢
  omega

/-- White space in front of a text adds no line that is not blank, and changes none. -/
theorem dropWhile_trimmedLines_cons {head : Char} (isBlank : isBlank head = true)
    (rest : List Char) :
    (trimmedLines (head :: rest)).dropWhile List.isEmpty =
      (trimmedLines rest).dropWhile List.isEmpty := by
  by_cases isBreak : isLineBreak head = true
  · by_cases pairs : head = '\r' ∧ rest.head? = some '\n'
    · obtain ⟨rfl, isFeed⟩ := pairs
      obtain ⟨further, rfl⟩ := List.head?_eq_some_iff.mp isFeed
      rw [trimmedLines, trimmedLines, lines, lines_lineFeed]
    · have single : head = '\r' → rest.head? ≠ some '\n' := fun isReturn isFeed =>
        pairs ⟨isReturn, isFeed⟩
      rw [trimmedLines, trimmedLines, lines_break isBreak single, List.map_cons]
      rfl
  · rw [trimmedLines, trimmedLines, lines_cons (eq_false_of_ne_true isBreak)]
    cases lines rest with
    | nil =>
        have empty : trim [head] = [] := trim_cons_blank isBlank []
        rw [onFirstLine, List.map_singleton, empty]
        rfl
    | cons line more => rw [onFirstLine, List.map_cons, List.map_cons, trim_cons_blank isBlank]

theorem dropWhile_trimmedLines_append {blanks : List Char}
    (areBlank : ∀ character ∈ blanks, isBlank character) (text : List Char) :
    (trimmedLines (blanks ++ text)).dropWhile List.isEmpty =
      (trimmedLines text).dropWhile List.isEmpty := by
  induction blanks with
  | nil => rfl
  | cons head tail inductionHypothesis =>
      obtain ⟨headBlank, tailBlank⟩ := List.forall_mem_cons.mp areBlank
      rw [List.cons_append, dropWhile_trimmedLines_cons headBlank, inductionHypothesis tailBlank]

/-- The lines of a text hold nothing but its characters. -/
theorem mem_of_mem_lines {text line : List Char} (isLine : line ∈ lines text) :
    ∀ character ∈ line, character ∈ text := by
  induction text using lineInduction generalizing line with
  | nil => cases isLine
  | pair rest inductionHypothesis =>
      rw [lines] at isLine
      intro character member
      rcases List.mem_cons.mp isLine with rfl | later
      · cases member
      · exact List.mem_cons_of_mem _ (List.mem_cons_of_mem _
          (inductionHypothesis later character member))
  | single head rest isBreak single inductionHypothesis =>
      rw [lines_break isBreak single] at isLine
      intro character member
      rcases List.mem_cons.mp isLine with rfl | later
      · cases member
      · exact List.mem_cons_of_mem _ (inductionHypothesis later character member)
  | plain head rest noBreak inductionHypothesis =>
      rw [lines_cons noBreak] at isLine
      cases linesEq : lines rest with
      | nil =>
          rw [linesEq, onFirstLine, List.mem_singleton] at isLine
          rw [isLine]
          exact List.forall_mem_singleton.mpr List.mem_cons_self
      | cons first more =>
          rw [linesEq] at inductionHypothesis
          rw [linesEq, onFirstLine] at isLine
          rcases List.mem_cons.mp isLine with rfl | later
          · refine List.forall_mem_cons.mpr ⟨List.mem_cons_self, ?_⟩
            exact fun character member =>
              List.mem_cons_of_mem _ (inductionHypothesis List.mem_cons_self character member)
          · exact fun character member => List.mem_cons_of_mem _
              (inductionHypothesis (List.mem_cons_of_mem _ later) character member)

theorem map_trim_continueLines
    {first more : List (List Char)} (nonempty : first ≠ [])
    (areBlank : ∀ line ∈ more, ∀ character ∈ line, isBlank character) :
    ∃ count, (continueLines first more).map trim =
      first.map trim ++ List.replicate count [] := by
  induction first with
  | nil => exact absurd rfl nonempty
  | cons line rest inductionHypothesis =>
      cases rest with
      | nil =>
          cases more with
          | nil => exact ⟨0, rfl⟩
          | cons next others =>
              obtain ⟨nextBlank, othersBlank⟩ := List.forall_mem_cons.mp areBlank
              have empty : others.map trim = List.replicate others.length [] :=
                List.map_eq_replicate_iff.mpr fun other member =>
                  trim_eq_nil_iff.mpr (othersBlank other member)
              refine ⟨others.length, ?_⟩
              rw [continueLines, List.map_cons, trim_append_blank line nextBlank, empty]
              rfl
      | cons next others =>
          obtain ⟨count, further⟩ := inductionHypothesis (List.cons_ne_nil _ _)
          exact ⟨count, by rw [continueLines, List.map_cons, further]; rfl⟩

/-- White space at the end of a text that does not end with it adds blank lines only. -/
theorem trimmedLines_append_blank
    {text blanks : List Char} (nonempty : text ≠ [])
    (ends : ∀ last ∈ text.getLast?, isBlank last = false)
    (areBlank : ∀ character ∈ blanks, isBlank character) :
    ∃ count, trimmedLines (text ++ blanks) =
      trimmedLines text ++ List.replicate count [] := by
  have inside : ∀ last ∈ text.getLast?, isLineBreak last = false :=
    fun last isLast => isLineBreak_eq_false (ends last isLast)
  rw [trimmedLines, lines_append text blanks inside]
  apply map_trim_continueLines (lines_ne_nil nonempty)
  intro line isLine character member
  exact areBlank character (mem_of_mem_lines isLine character member)

/-- The first line of a text that begins with no white space is not blank. -/
theorem dropWhile_trimmedLines_of_head {text : List Char}
    (begins : ∀ head ∈ text.head?, isBlank head = false) :
    (trimmedLines text).dropWhile List.isEmpty = trimmedLines text := by
  cases text with
  | nil => rfl
  | cons head rest =>
      have notBlank := begins head rfl
      have nonempty (line : List Char) : ¬ (trim (head :: line)).isEmpty = true := by
        rw [List.isEmpty_iff, trim_eq_nil_iff, List.forall_mem_cons]
        exact fun both => Bool.noConfusion (notBlank.symm.trans both.1)
      rw [trimmedLines, lines_cons (isLineBreak_eq_false notBlank)]
      cases lines rest with
      | nil => exact List.dropWhile_cons_of_neg (nonempty [])
      | cons line more => exact List.dropWhile_cons_of_neg (nonempty line)

/-- The lines of a trimmed text are those of the text from the first that is not blank on, less
blank lines at the end. -/
theorem exists_trimmedLines_trim (text : List Char) :
    ∃ count, (trimmedLines text).dropWhile List.isEmpty =
      trimmedLines (trim text) ++ List.replicate count [] := by
  obtain ⟨before, after, whole, beforeBlank, afterBlank⟩ := exists_trim_eq text
  have started : (trimmedLines text).dropWhile List.isEmpty =
      (trimmedLines (trim text ++ after)).dropWhile List.isEmpty := by
    conv => lhs; rw [whole]
    exact dropWhile_trimmedLines_append beforeBlank _
  rw [started]
  by_cases empty : trim text = []
  · have nothing := dropWhile_trimmedLines_append afterBlank []
    rw [List.append_nil] at nothing
    exact ⟨0, by rw [empty, List.nil_append, nothing]; rfl⟩
  · have begins : ∀ head ∈ (trim text ++ after).head?, isBlank head = false := by
      rw [List.head?_append_of_ne_nil _ empty]
      exact head?_trim text
    rw [dropWhile_trimmedLines_of_head begins]
    exact trimmedLines_append_blank empty (getLast?_trim text) afterBlank

end ApiDocs.Text
