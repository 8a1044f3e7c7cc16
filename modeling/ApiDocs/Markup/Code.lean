import ApiDocs.Text.Escape
import ApiDocs.Text.Lines

/-!
Highlighted code.  Which words a highlighter would colour is no part of the text: code is shown
escaped, with unified line ends and without empty lines at its ends.
-/

namespace ApiDocs.Markup

open ApiDocs.Text

/-- A byte-order mark at the start of a text is dropped. -/
def dropByteOrderMark : List Char → List Char
  | '\uFEFF' :: rest => rest
  | text => text

/-- The text of a piece of code as it is shown, without line feeds at its ends. -/
def codeText (code : List Char) : List Char :=
  escapeCode (trimOf '\n' (dropByteOrderMark (unifyLineEnds code)))

/-- A block of code. -/
def renderCode (code : List Char) : List Char :=
  "<div class=\"highlight\"><pre>".toList ++ codeText code ++ "\n</pre></div>".toList

/-- A parameter list or annotation, within a line. -/
def renderSignature (signature : List Char) : List Char := codeText signature

/-- The names of the colour styles there are. -/
def highlightStyles : List String := ["default", "friendly", "monokai"]

end ApiDocs.Markup
