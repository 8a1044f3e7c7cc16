import ApiDocs.Proofs.Text.Marks

/-!
# Script elements of a page

A reader of pages that finds the script elements as a browser does.  The text of a script goes on to
the next end tag, except within `<!--` and `<script`, where the end tag only closes the latter.  So
a text with neither an end tag nor `<!--` stands in a script as it is.
-/

namespace ApiDocs.Browser

open ApiDocs.Text

/-- A script element: its opening tag as it is written, and its text. -/
structure ScriptElement where
  tag : String
  content : String
deriving DecidableEq, Repr

/-- How the text of a script is read: as it is, behind `<!--`, or behind `<script` there. -/
inductive Mode where
  | plain
  | escaped
  | doublyEscaped
deriving DecidableEq, Repr

/-- Where a reader of pages stands: between tags, in a tag and there perhaps in a quoted value, in
the text of a script, or behind something that it does not read. -/
inductive Parsing where
  | outside
  | tag (letters : List Char) (quoted : Bool)
  | script (tag : List Char) (mode : Mode) (content : List Char)
  | broken
deriving DecidableEq, Repr

/-- What ends the name of a tag. -/
def endsName (character : Char) : Bool :=
  character == ' ' || character == '\t' || character == '\n' || character == '\r' ||
    character == '\x0c' || character == '/' || character == '>'

/-- A text begins with a tag, in whatever letter case. -/
def BeginsWithTag (mark text : List Char) : Prop :=
  BeginsWith mark text ∧ (text.drop mark.length).head?.any endsName = true

instance (mark text : List Char) : Decidable (BeginsWithTag mark text) :=
  inferInstanceAs (Decidable (_ ∧ _))

def comment : List Char := "<!--".toList

def opening : List Char := "<script".toList

def closing : List Char := "</script".toList

/-- The mode behind the first character of a text. -/
def Mode.next (mode : Mode) (text : List Char) : Mode :=
  match mode with
  | plain => if BeginsWith comment text then escaped else plain
  | escaped =>
    if BeginsWith "-->".toList text then plain
    else if BeginsWithTag opening text then doublyEscaped
    else escaped
  | doublyEscaped =>
    if BeginsWith "-->".toList text then plain
    else if BeginsWithTag closing text then escaped
    else doublyEscaped

namespace Parsing

/-- The reader behind a tag.  Of all elements it knows scripts only. -/
def opened (letters : List Char) : Parsing :=
  if letters.head? = some '/' then outside
  else if (letters.takeWhile fun letter => !endsName letter).map Char.toLower = "script".toList then
    script letters .plain []
  else broken

/-- The reader after one character, with the script that ends there.  What follows is known. -/
def next (parsing : Parsing) (character : Char) (rest : List Char) :
    Parsing × List ScriptElement :=
  match parsing with
  | outside =>
    if character ≠ '<' then (outside, [])
    else if rest.head?.any fun next => next.isAlpha || next == '/' then (tag [] false, [])
    else (broken, [])
  | tag letters true => (tag (letters ++ [character]) (character ≠ '"'), [])
  | tag letters false =>
    if character = '>' then (opened letters, [])
    else if character = '"' then
      if letters.getLast? = some '=' then (tag (letters ++ [character]) true, []) else (broken, [])
    else if character = '\'' then (broken, [])
    else (tag (letters ++ [character]) false, [])
  | script letters mode content =>
    if mode ≠ .doublyEscaped ∧ BeginsWithTag closing (character :: rest) then
      (tag [] false, [⟨String.ofList letters, String.ofList content⟩])
    else (script letters (mode.next (character :: rest)) (content ++ [character]), [])
  | broken => (broken, [])

/-- The reader after a page, with the scripts that end in it. -/
def run (parsing : Parsing) : List Char → Parsing × List ScriptElement
  | [] => (parsing, [])
  | character :: rest =>
    let step := parsing.next character rest
    let after := run step.1 rest
    (after.1, step.2 ++ after.2)

/-! ## Tags -/

theorem run_plain {text : List Char} (noLess : '<' ∉ text) (rest : List Char) :
    outside.run (text ++ rest) = outside.run rest := by
  induction text with
  | nil => rfl
  | cons head tail inductionHypothesis =>
      rw [List.mem_cons, not_or] at noLess
      rw [List.cons_append, run, next, if_pos (Ne.symm noLess.1), inductionHypothesis noLess.2]
      rfl

/-- A character of a tag that is neither its end nor a quote. -/
def IsLetter (character : Char) : Prop := character ≠ '>' ∧ character ≠ '"' ∧ character ≠ '\''

instance (character : Char) : Decidable (IsLetter character) :=
  inferInstanceAs (Decidable (_ ∧ _))

theorem run_letters {more : List Char} (areLetters : ∀ letter ∈ more, IsLetter letter)
    (letters rest : List Char) :
    (tag letters false).run (more ++ rest) = (tag (letters ++ more) false).run rest := by
  induction more generalizing letters with
  | nil => rw [List.append_nil]; rfl
  | cons head tail inductionHypothesis =>
      obtain ⟨⟨noEnd, noQuote, noApostrophe⟩, areLettersLater⟩ := List.forall_mem_cons.mp areLetters
      rw [List.cons_append, run, next, if_neg noEnd, if_neg noQuote, if_neg noApostrophe,
        inductionHypothesis areLettersLater, List.append_assoc]
      rfl

/-- The name and further letters of a tag are read. -/
theorem run_tag {letters : List Char}
    (begins : (letters.head?.any fun first => first.isAlpha || first == '/') = true)
    (areLetters : ∀ letter ∈ letters, IsLetter letter) (rest : List Char) :
    outside.run ('<' :: (letters ++ rest)) = (tag letters false).run rest := by
  have ahead : ((letters ++ rest).head?.any fun first => first.isAlpha || first == '/') = true := by
    cases letters with
    | nil => cases begins
    | cons first letters => exact begins
  have step : outside.next '<' (letters ++ rest) = (tag [] false, []) := if_pos ahead
  rw [run, step]
  exact run_letters areLetters [] rest

theorem run_quote {letters : List Char} (isValue : letters.getLast? = some '=')
    (rest : List Char) :
    (tag letters false).run ('"' :: rest) = (tag (letters ++ ['"']) true).run rest := by
  have step : (tag letters false).next '"' rest = (tag (letters ++ ['"']) true, []) :=
    if_pos isValue
  rw [run, step]
  rfl

/-- A quoted value is read up to its quote. -/
theorem run_value {value : List Char} (noQuote : '"' ∉ value) (letters rest : List Char) :
    (tag letters true).run (value ++ '"' :: rest) =
      (tag (letters ++ value ++ ['"']) false).run rest := by
  induction value generalizing letters with
  | nil =>
      rw [List.append_nil]
      rfl
  | cons head tail inductionHypothesis =>
      rw [List.mem_cons, not_or] at noQuote
      obtain ⟨isOther, noQuoteLater⟩ := noQuote
      have step : (tag letters true).next head (tail ++ '"' :: rest) =
          (tag (letters ++ [head]) true, []) := by
        rw [next, decide_eq_true (Ne.symm isOther)]
      rw [List.cons_append, run, step, inductionHypothesis noQuoteLater, List.append_assoc letters]
      rfl

theorem run_greater {letters : List Char} (isScript : opened letters = script letters .plain [])
    (rest : List Char) :
    (tag letters false).run ('>' :: rest) = (script letters .plain []).run rest := by
  have step : (tag letters false).next '>' rest = (opened letters, []) := rfl
  rw [run, step, isScript]
  rfl

/-! ## Scripts -/

/-- A text with neither an end tag nor `<!--` is read up to the end tag behind it. -/
theorem run_content {text : List Char} (noClosing : occurrences closing text = 0)
    (noComment : occurrences comment text = 0) (letters content rest : List Char) :
    (script letters .plain content).run (text ++ closing ++ '>' :: rest) =
      ((outside.run rest).1,
        ⟨String.ofList letters, String.ofList (content ++ text)⟩ :: (outside.run rest).2) := by
  induction text generalizing content with
  | nil =>
      rw [List.append_nil]
      rfl
  | cons head tail inductionHypothesis =>
      obtain ⟨noEnd, noClosingLater⟩ := not_beginsWith_of_occurrences noClosing
      obtain ⟨noBegin, noCommentLater⟩ := not_beginsWith_of_occurrences noComment
      have later : tail ++ closing ++ '>' :: rest =
          tail ++ '<' :: ("/script".toList ++ '>' :: rest) := by
        rw [List.append_assoc]
        rfl
      have step : (script letters .plain content).next head (tail ++ closing ++ '>' :: rest) =
          (script letters .plain (content ++ [head]), []) := by
        have noEnd' : ¬ BeginsWith closing (head :: (tail ++ closing ++ '>' :: rest)) := by
          rw [later]
          exact fun begins => noEnd ((beginsWith_cons_append (by decide)).mp begins)
        have noBegin' : ¬ BeginsWith comment (head :: (tail ++ closing ++ '>' :: rest)) := by
          rw [later]
          exact fun begins => noBegin ((beginsWith_cons_append (by decide)).mp begins)
        rw [next, if_neg fun both => noEnd' both.2.1, Mode.next, if_neg noBegin']
      rw [List.cons_append, List.cons_append, run, step,
        inductionHypothesis noClosingLater noCommentLater, List.append_assoc content]
      rfl

end Parsing

/-- The script elements of a page in which no tag and no script is left open. -/
def scripts? (page : List Char) : Option (List ScriptElement) :=
  match Parsing.outside.run page with
  | (.outside, scripts) => some scripts
  | _ => none

end ApiDocs.Browser
