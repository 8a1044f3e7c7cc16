import ApiDocs.Text.Escape
import ApiDocs.Text.Lines

/-!
Inline markup: code between single or double backticks and bold text between double asterisks.

The text is escaped first, then code spans are marked, then bold text.  Delimiters that do not
pair up are ordinary characters.
-/

namespace ApiDocs.Markup

open ApiDocs.Text

/-! ## Spans between delimiters -/

/-- The text up to the next two marks in a row, and what follows them; a line feed ends the
search. -/
def upToTwo (mark : Char) : List Char → Option (List Char × List Char)
  | first :: second :: rest =>
    if first = mark ∧ second = mark then some ([], rest)
    else if first = '\n' then none
    else (upToTwo mark (second :: rest)).map fun found => (first :: found.1, found.2)
  | _ => none

/-- As `upToTwo`, with at least one character before the marks. -/
def someUpToTwo (mark : Char) : List Char → Option (List Char × List Char)
  | [] => none
  | head :: rest =>
    if head = '\n' then none
    else (upToTwo mark rest).map fun found => (head :: found.1, found.2)

/-- The text up to the next mark, at least one character long, and what follows the mark. -/
def someUpToOne (mark : Char) (text : List Char) : Option (List Char × List Char) :=
  match text.dropWhile (· != mark) with
  | [] => none
  | _ :: rest =>
    let body := text.takeWhile (· != mark)
    if body.isEmpty then none else some (body, rest)

/-- The code span that a text begins with, and what follows it: between two backticks on either
side, else between one. -/
def codeSpan? : List Char → Option (List Char × List Char)
  | '`' :: '`' :: rest => someUpToTwo '`' rest
  | '`' :: rest => someUpToOne '`' rest
  | _ => none

/-- The bold span that a text begins with, and what follows it. -/
def boldSpan? : List Char → Option (List Char × List Char)
  | '*' :: '*' :: rest => someUpToTwo '*' rest
  | _ => none

theorem upToTwo_length {mark : Char} {text body rest : List Char}
    (found : upToTwo mark text = some (body, rest)) : rest.length < text.length := by
  induction text generalizing body rest with
  | nil => simp [upToTwo] at found
  | cons first tail induction =>
    cases tail with
    | nil => simp [upToTwo] at found
    | cons second more =>
      unfold upToTwo at found
      split at found
      · cases found
        simp only [List.length_cons]
        omega
      · split at found
        · cases found
        · obtain ⟨⟨inner, remainder⟩, equality, pair⟩ := Option.map_eq_some_iff.1 found
          cases pair
          have shorter := induction equality
          simp only [List.length_cons] at shorter ⊢
          omega

theorem someUpToTwo_length {mark : Char} {text body rest : List Char}
    (found : someUpToTwo mark text = some (body, rest)) : rest.length < text.length := by
  cases text with
  | nil => simp [someUpToTwo] at found
  | cons head tail =>
    simp only [someUpToTwo] at found
    split at found
    · cases found
    · obtain ⟨⟨inner, remainder⟩, equality, pair⟩ := Option.map_eq_some_iff.1 found
      cases pair
      have shorter := upToTwo_length equality
      simp only [List.length_cons]
      omega

theorem someUpToOne_length {mark : Char} {text body rest : List Char}
    (found : someUpToOne mark text = some (body, rest)) : rest.length < text.length := by
  unfold someUpToOne at found
  split at found
  · cases found
  · rename_i other remainder equality
    have suffix := (List.dropWhile_suffix (· != mark) (l := text)).length_le
    rw [equality] at suffix
    simp only at found
    split at found
    · cases found
    · cases found
      simp only [List.length_cons] at suffix
      omega

theorem codeSpan?_length {text body rest : List Char}
    (found : codeSpan? text = some (body, rest)) : rest.length < text.length := by
  unfold codeSpan? at found
  split at found
  · have shorter := someUpToTwo_length found
    simp only [List.length_cons]
    omega
  · have shorter := someUpToOne_length found
    simp only [List.length_cons]
    omega
  · cases found

theorem boldSpan?_length {text body rest : List Char}
    (found : boldSpan? text = some (body, rest)) : rest.length < text.length := by
  unfold boldSpan? at found
  split at found
  · have shorter := someUpToTwo_length found
    simp only [List.length_cons]
    omega
  · cases found

/-! ## Marking the spans -/

/-- Code spans become `code` elements. -/
def markCode (text : List Char) : List Char :=
  match text with
  | [] => []
  | head :: tail =>
    match _found : codeSpan? (head :: tail) with
    | some (body, rest) => "<code>".toList ++ body ++ "</code>".toList ++ markCode rest
    | none => head :: markCode tail
termination_by text.length
decreasing_by
  · exact codeSpan?_length _found
  · simp

/-- Bold spans become `strong` elements. -/
def markBold (text : List Char) : List Char :=
  match text with
  | [] => []
  | head :: tail =>
    match _found : boldSpan? (head :: tail) with
    | some (body, rest) => "<strong>".toList ++ body ++ "</strong>".toList ++ markBold rest
    | none => head :: markBold tail
termination_by text.length
decreasing_by
  · exact boldSpan?_length _found
  · simp

/-- A text as inline markup. -/
def renderInline (text : List Char) : List Char := markBold (markCode (escapeMarkup text))

/-- The first paragraph of a comment, on one line, as inline markup. -/
def summary (text : List Char) : List Char :=
  renderInline (join [' '] ((lines (beforeEmptyLine (trim text))).map trim))

end ApiDocs.Markup
