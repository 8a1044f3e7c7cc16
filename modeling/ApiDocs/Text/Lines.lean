import ApiDocs.Text.Character

/-!
Trimming, joining and cutting text: lines of a document, the first paragraph of a text, and the
removal of the indentation that the lines of a block share.
-/

namespace ApiDocs.Text

/-! ## Trimming -/

def trimStart (text : List Char) : List Char := text.dropWhile isBlank

def trimEnd (text : List Char) : List Char := (text.reverse.dropWhile isBlank).reverse

/-- White space is removed at both ends. -/
def trim (text : List Char) : List Char := trimEnd (trimStart text)

/-- The given character is removed at the end, as often as it stands there. -/
def trimEndOf (character : Char) (text : List Char) : List Char :=
  (text.reverse.dropWhile (· == character)).reverse

/-- The given character is removed at both ends. -/
def trimOf (character : Char) (text : List Char) : List Char :=
  trimEndOf character (text.dropWhile (· == character))

/-! ## Joining and cutting -/

/-- The pieces with the separator between neighbours. -/
def join (separator : List Char) (pieces : List (List Char)) : List Char :=
  separator.intercalate pieces

/-- The pieces between occurrences of a character; there is always at least one. -/
def splitOn (separator : Char) : List Char → List (List Char)
  | [] => [[]]
  | head :: tail =>
    match splitOn separator tail with
    | [] => [[head]]
    | piece :: pieces =>
      if head == separator then [] :: piece :: pieces else (head :: piece) :: pieces

/-- The lines of a text.  A carriage return and a line feed together end one line, and a line
break at the end opens no further line. -/
def lines : List Char → List (List Char)
  | [] => []
  | '\r' :: '\n' :: rest => [] :: lines rest
  | head :: rest =>
    if isLineBreak head then [] :: lines rest
    else
      match lines rest with
      | [] => [[head]]
      | line :: more => (head :: line) :: more

/-- Line ends are unified: a carriage return, with the line feed after it if there is one, is
read as one line feed. -/
def unifyLineEnds : List Char → List Char
  | [] => []
  | '\r' :: '\n' :: rest => '\n' :: unifyLineEnds rest
  | head :: rest => (if head == '\r' then '\n' else head) :: unifyLineEnds rest

/-- What stands before the first empty line, that is, before two line feeds in a row. -/
def beforeEmptyLine : List Char → List Char
  | [] => []
  | '\n' :: '\n' :: _ => []
  | head :: rest => head :: beforeEmptyLine rest

/-- Whether the text starts with the given characters. -/
def startsWith (text start : List Char) : Bool := start.isPrefixOf text

/-- Whether the text ends with the given characters. -/
def endsWith (text ending : List Char) : Bool := ending.isSuffixOf text

/-- Every occurrence of a non-empty pattern is replaced, from left to right; an empty pattern
stands before each character and at the end. -/
def replace (pattern replacement : List Char) (text : List Char) : List Char :=
  if pattern.isEmpty then
    replacement ++ text.flatMap (fun character => character :: replacement)
  else go 0 text
where
  /-- The first argument counts the characters of a match that are still to be skipped. -/
  go : Nat → List Char → List Char
    | _, [] => []
    | skipped + 1, _ :: rest => go skipped rest
    | 0, head :: rest =>
      if startsWith (head :: rest) pattern then replacement ++ go (pattern.length - 1) rest
      else head :: go 0 rest

/-! ## Indentation -/

/-- Tabulators are expanded to spaces, with a stop at every eighth column. -/
def expandTabs (column : Nat) : List Char → List Char
  | [] => []
  | '\t' :: rest => List.replicate (8 - column % 8) ' ' ++ expandTabs 0 rest
  | head :: rest =>
    head :: expandTabs (if head == '\n' || head == '\r' then 0 else column + 1) rest

/-- The number of leading white-space characters, if the line holds anything else. -/
def indentation? (line : List Char) : Option Nat :=
  let content := trimStart line
  if content.isEmpty then none else some (line.length - content.length)

def dropEmptyEnds (items : List (List Char)) : List (List Char) :=
  ((items.reverse.dropWhile List.isEmpty).reverse).dropWhile List.isEmpty

/-- The text of a block comment: the first line loses its indentation, the others lose the
indentation that all of them share, and empty lines at both ends are dropped. -/
def dedent (text : List Char) : List Char :=
  match splitOn '\n' (expandTabs 0 text) with
  | [] => []
  | first :: others =>
    let margin := (others.filterMap indentation?).min?.getD 0
    join ['\n'] (dropEmptyEnds (trimStart first :: others.map (List.drop margin)))

end ApiDocs.Text
