import ApiDocs.Yaml.Token

/-!
Scalars of YAML documents: plain ones, quoted ones and blocks of lines.  Each reader returns the
text of the scalar and what follows it.
-/

namespace ApiDocs.Yaml

/-! ## Lines -/

/-- A line end between two parts of a scalar: it becomes a space, unless empty lines follow. -/
def foldBreak (ending : Char) (empty : List Char) : List Char :=
  if ending != '\n' then ending :: empty
  else if empty.isEmpty then [' ']
  else empty

/-! ## Quoted scalars -/

/-- Empty lines inside a quoted scalar, and what follows the white space after them.  The mark of a
document must not occur. -/
def emptyLines : Nat → List Char → Except Fault (List Char × List Char)
  | 0, _ => .error .malformed
  | bound + 1, text =>
    if atDocumentMark text then .error .malformed
    else
      let rest := text.dropWhile isSpaceOrTab
      match lineBreak? rest with
      | some (ending, rest) =>
        (emptyLines bound rest).map fun (endings, rest) => (ending :: endings, rest)
      | none => .ok ([], rest)

/-- What a letter after a backslash stands for. -/
def escapedLetters : List (Char × Char) :=
  [('0', '\x00'), ('a', '\x07'), ('b', '\x08'), ('t', '\t'), ('\t', '\t'), ('n', '\n'),
    ('v', '\x0b'), ('f', '\x0c'), ('r', '\r'), ('e', '\x1b'), (' ', ' '), ('"', '"'),
    ('\\', '\\'), ('/', '/'), ('N', '\x85'), ('_', '\xa0'), ('L', '\u2028'), ('P', '\u2029')]

/-- How many hexadecimal digits follow a letter after a backslash. -/
def escapeWidths : List (Char × Nat) := [('x', 2), ('u', 4), ('U', 8)]

/-- The greatest number of a character. -/
def lastCodePoint : Nat := 0x10FFFF

/-- The character that digits after a backslash stand for. -/
def escapedNumber (width : Nat) (text : List Char) : Except Fault (Char × List Char) :=
  let digits := text.take width
  let codePoint := Text.numberOfDigits 16 digits
  if digits.length ≠ width ∨ digits.any (fun digit => (Text.hexValue? digit).isNone) then
    .error .malformed
  else if lastCodePoint < codePoint then .error (.noCharacter codePoint)
  else .ok (Text.characterOf codePoint, text.drop width)

/-- An escape after its backslash: the characters it stands for.  An escaped line end stands for
nothing. -/
def escape (text : List Char) : Except Fault (List Char × List Char) :=
  match text with
  | [] => .error .malformed
  | letter :: rest =>
    match escapedLetters.lookup letter, escapeWidths.lookup letter with
    | some character, _ => .ok ([character], rest)
    | none, some width =>
      (escapedNumber width rest).map fun (character, rest) => ([character], rest)
    | none, none =>
      match lineBreak? text with
      | some (_, rest) => emptyLines (rest.length + 1) rest
      | none => .error .malformed

/-- White space inside a quoted scalar. -/
def quotedSpaces (text : List Char) : Except Fault (List Char × List Char) :=
  let spaces := text.takeWhile isSpaceOrTab
  let rest := text.dropWhile isSpaceOrTab
  match lineBreak? rest with
  | some (ending, rest) =>
    (emptyLines (rest.length + 1) rest).map fun (empty, rest) => (foldBreak ending empty, rest)
  | none => if rest.isEmpty then .error .malformed else .ok (spaces, rest)

/-- The text of a quoted scalar after its opening quote, and what follows its closing quote. -/
def quotedFrom (isDouble : Bool) : Nat → List Char → Except Fault (List Char × List Char)
  | 0, _ => .error .malformed
  | bound + 1, text =>
    let goOn (part rest : List Char) :=
      (quotedFrom isDouble bound rest).map fun (more, after) => (part ++ more, after)
    match text with
    | [] => .error .malformed
    | next :: rest =>
      if isSpaceOrTab next || isBreak next then
        (quotedSpaces text).bind fun (part, rest) => goOn part rest
      else if isDouble then
        if next == '"' then .ok ([], rest)
        else if next == '\\' then (escape rest).bind fun (part, rest) => goOn part rest
        else goOn [next] rest
      else if next == '\'' then
        if rest.head? = some '\'' then goOn [next] (rest.drop 1) else .ok ([], rest)
      else goOn [next] rest

def quoted (isDouble : Bool) (text : List Char) : Except Fault (List Char × List Char) :=
  quotedFrom isDouble (text.length + 1) text

/-! ## Plain scalars -/

/-- Whether a plain scalar ends here: at white space, at a colon before white space and, in a flow
collection, at its punctuation. -/
def endsPlain (inFlow : Bool) (text : List Char) : Bool :=
  match text with
  | [] => true
  | next :: rest =>
    isSpaceOrTab next || isBreak next ||
      (next == ':' &&
        (atBlank rest ||
          (inFlow && rest.head?.any fun after => ",[]\x7b\x7d".toList.contains after))) ||
      (inFlow && ",?[]\x7b\x7d".toList.contains next)

/-- A word of a plain scalar. -/
def plainWord (inFlow : Bool) : List Char → List Char × List Char
  | [] => ([], [])
  | next :: rest =>
    if endsPlain inFlow (next :: rest) then ([], next :: rest)
    else
      let (word, after) := plainWord inFlow rest
      (next :: word, after)

/-- The white space between two words: what it becomes, what follows, whether a line ended, and the
column that was reached on the last line. -/
structure Gap where
  text : List Char
  rest : List Char
  endsLine : Bool
  column : Nat

/-- Empty lines after a plain word, up to the next word or the mark of a document; the flag says
whether that mark was met. -/
def plainLines : Nat → Nat → List Char → List Char × List Char × Nat × Bool
  | 0, column, text => ([], text, column, false)
  | bound + 1, column, text =>
    match text with
    | ' ' :: rest => plainLines bound (column + 1) rest
    | _ =>
      match lineBreak? text with
      | none => ([], text, column, false)
      | some (ending, rest) =>
        if atDocumentMark rest then ([], rest, 0, true)
        else
          let (endings, rest, column, isMark) := plainLines bound 0 rest
          (ending :: endings, rest, column, isMark)

/-- The white space after a plain word. -/
def plainGap (text : List Char) : Gap :=
  let spaces := text.takeWhile (· == ' ')
  let rest := text.dropWhile (· == ' ')
  match lineBreak? rest with
  | none => { text := spaces, rest, endsLine := false, column := 0 }
  | some (ending, rest) =>
    if atDocumentMark rest then { text := [], rest, endsLine := true, column := 0 }
    else
      let (empty, rest, column, isMark) := plainLines (rest.length + 1) 0 rest
      { text := if isMark then [] else foldBreak ending empty, rest, endsLine := true, column }

/-- A plain scalar.  Its lines are indented at least as far as its block; the flag says whether it
ended at the beginning of a line. -/
def plainFrom (inFlow : Bool) (indent : Int) :
    Nat → List Char → Bool → List Char → List Char × List Char × Bool
  | 0, _, endsLine, text => ([], text, endsLine)
  | bound + 1, spaces, endsLine, text =>
    let (word, rest) := plainWord inFlow text
    if text.head? = some '#' ∨ word.isEmpty then ([], text, endsLine)
    else
      let gap := plainGap rest
      let isLast := gap.text.isEmpty || gap.rest.head? == some '#' ||
        (!inFlow && gap.endsLine && decide ((gap.column : Int) < indent))
      if isLast then (spaces ++ word, gap.rest, gap.endsLine)
      else
        let (more, after, endsLine) := plainFrom inFlow indent bound gap.text gap.endsLine gap.rest
        (spaces ++ word ++ more, after, endsLine)

def plain (inFlow : Bool) (indent : Int) (text : List Char) : List Char × List Char × Bool :=
  plainFrom inFlow indent (text.length + 1) [] false text

/-! ## Blocks of lines -/

/-- What is done with the line ends at the end of a block: one is kept, none, or all. -/
inductive Chomping where
  | clip
  | strip
  | keep
deriving DecidableEq

def chomping? (text : List Char) : Option (Chomping × List Char) :=
  match text with
  | '+' :: rest => some (.keep, rest)
  | '-' :: rest => some (.strip, rest)
  | _ => none

/-- The indentation that a block states for itself, which is not zero. -/
def statedIndent? (text : List Char) : Option (Option Nat × List Char) :=
  match text with
  | digit :: rest =>
    if digit.isDigit then
      if digit == '0' then none else some (some (digit.toNat - 48), rest)
    else some (none, text)
  | [] => some (none, text)

/-- The header of a block: how it ends and the indentation it states, in any order. -/
def blockHeader? (text : List Char) : Option (Chomping × Option Nat × List Char) := do
  let (ending, indent, rest) ←
    match chomping? text with
    | some (ending, rest) => do
      let (indent, rest) ← statedIndent? rest
      pure (ending, indent, rest)
    | none => do
      let (indent, rest) ← statedIndent? text
      match indent, chomping? rest with
      | some indent, some (ending, rest) => pure (ending, some indent, rest)
      | _, _ => pure (.clip, indent, rest)
  if atSpace rest then some (ending, indent, rest) else none

/-- What follows a line on which nothing but a comment stands. -/
def afterComment? (text : List Char) : Option (List Char) :=
  let rest := text.dropWhile (· == ' ')
  let rest := if rest.head? = some '#' then rest.dropWhile fun next => !isBreak next else rest
  match lineBreak? rest with
  | some (_, rest) => some rest
  | none => if rest.isEmpty then some [] else none

/-- Empty lines at the beginning of a block, what follows the spaces after them, the column there and
the greatest column reached. -/
def leadingLines : Nat → Nat → Nat → List Char → List Char × List Char × Nat × Nat
  | 0, column, greatest, text => ([], text, column, greatest)
  | bound + 1, column, greatest, text =>
    match text with
    | ' ' :: rest => leadingLines bound (column + 1) (max greatest (column + 1)) rest
    | _ =>
      match lineBreak? text with
      | none => ([], text, column, greatest)
      | some (ending, rest) =>
        let (endings, rest, column, greatest) := leadingLines bound 0 greatest rest
        (ending :: endings, rest, column, greatest)

/-- Empty lines inside a block, and the column after the indentation that follows them. -/
def blankLines (indent : Nat) : Nat → Nat → List Char → List Char × List Char × Nat
  | 0, column, text => ([], text, column)
  | bound + 1, column, text =>
    match text with
    | ' ' :: rest =>
      if column < indent then blankLines indent bound (column + 1) rest else ([], text, column)
    | _ =>
      match lineBreak? text with
      | none => ([], text, column)
      | some (ending, rest) =>
        let (endings, rest, column) := blankLines indent bound 0 rest
        (ending :: endings, rest, column)

/-- The lines of a block from a line on that is indented far enough: their text, the last line end,
the empty lines after it, and what follows.  In a folded block a line end between two lines that
begin with other characters than white space becomes a space. -/
def blockLines (isFolded : Bool) (indent : Nat) :
    Nat → List Char → List Char × List Char × List Char × List Char
  | 0, text => ([], [], [], text)
  | bound + 1, text =>
    let line := text.takeWhile fun next => !isBreak next
    let rest := text.dropWhile fun next => !isBreak next
    let (ending, rest) := match lineBreak? rest with
      | some (ending, rest) => ([ending], rest)
      | none => ([], rest)
    let (empty, rest, column) := blankLines indent (rest.length + 1) 0 rest
    if column = indent ∧ !rest.isEmpty then
      let isPlainStart (text : List Char) : Bool := !(text.head?.any isSpaceOrTab)
      let between :=
        if isFolded && ending == ['\n'] && isPlainStart text && isPlainStart rest then
          if empty.isEmpty then [' '] else []
        else ending
      let (more, last) := blockLines isFolded indent bound rest
      (line ++ between ++ empty ++ more, last)
    else (line, ending, empty, rest)

/-- A block scalar after its indicator, inside a block of the given indentation. -/
def block? (isFolded : Bool) (indent : Int) (text : List Char) :
    Option (List Char × List Char) := do
  let (ending, stated, rest) ← blockHeader? text
  let rest ← afterComment? rest
  let least := max (indent + 1).toNat 1
  let (leading, rest, column, width) :=
    match stated with
    | some stated =>
      let width := least + stated - 1
      let (empty, rest, column) := blankLines width (rest.length + 1) 0 rest
      (empty, rest, column, width)
    | none =>
      let (empty, rest, column, greatest) := leadingLines (rest.length + 1) 0 0 rest
      (empty, rest, column, max least greatest)
  let (body, last, empty, rest) :=
    if column = width ∧ !rest.isEmpty then
      let (body, last, empty, rest) := blockLines isFolded width (rest.length + 1) rest
      (leading ++ body, last, empty, rest)
    else ([], [], leading, rest)
  match ending with
  | .strip => return (body, rest)
  | .clip => return (body ++ last, rest)
  | .keep => return (body ++ last ++ empty, rest)

end ApiDocs.Yaml
