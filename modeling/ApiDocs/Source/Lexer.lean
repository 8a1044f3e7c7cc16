import ApiDocs.Source.Token
import ApiDocs.Text.Character

/-!
Splitting source text into tokens.  Indentation is measured with two tab widths, which have to
agree on every comparison of two lines; brackets have to match and suspend the rules of lines.
-/

namespace ApiDocs.Source

/-! ## Words and numbers -/

/-- Characters that continue a word.  Which other characters than those of ASCII are right is
decided when the word is complete. -/
def isWordCharacter (character : Char) : Bool :=
  character.isAlphanum || character == '_' || character.toNat ≥ 0x80

def isIdentifier : List Char → Bool
  | [] => false
  | first :: others => Text.isIdentifierStart first && others.all Text.isIdentifierContinue

/-- The prefix letters of text literals: `b` and `f` go with `r`, `u` stands alone. -/
def isTextMark (word : List Char) : Bool :=
  ["b", "u", "r", "f", "br", "rb", "fr", "rf"].contains (String.ofList (word.map Char.toLower))

def isOctalDigit (character : Char) : Bool := '0' ≤ character && character ≤ '7'

def isBinaryDigit (character : Char) : Bool := character == '0' || character == '1'

def isHexDigit (character : Char) : Bool :=
  character.isDigit || ('a' ≤ character && character ≤ 'f') ||
    ('A' ≤ character && character ≤ 'F')

/-- What follows the digits of a number after its first; a single underscore may stand between
two digits. -/
def afterDigits (isDigit : Char → Bool) : List Char → Option (List Char)
  | [] => some []
  | '_' :: [] => none
  | '_' :: next :: rest => if isDigit next then afterDigits isDigit rest else none
  | next :: rest => if isDigit next then afterDigits isDigit rest else some (next :: rest)

/-- Whether what follows a number may stand there: no word, except a keyword that continues an
expression. -/
def endsNumber (rest : List Char) : Bool :=
  let continues := ["and", "else", "for", "if", "in", "is", "or", "not"].any fun keyword =>
    keyword.toList.isPrefixOf rest
  continues || !(rest.head?.any isWordCharacter)

/-- What is checked to follow a number. -/
def numberEnd (rest : List Char) : Option (List Char) :=
  if endsNumber rest then some rest else none

/-- What follows the digits of a base after its letter. -/
def afterBase (isDigit : Char → Bool) (text : List Char) : Option (List Char) :=
  let digits := if text.head? = some '_' then text.drop 1 else text
  if digits.head?.any isDigit then (afterDigits isDigit digits).bind numberEnd else none

/-- An imaginary number has a letter after its digits. -/
def afterImaginary (rest : List Char) : Option (List Char) :=
  numberEnd (if rest.head? = some 'j' ∨ rest.head? = some 'J' then rest.drop 1 else rest)

/-- An exponent needs a digit after its sign.  A letter without sign and digit begins the next
word. -/
def afterExponent (rest : List Char) : Option (List Char) :=
  if rest.head? = some 'e' ∨ rest.head? = some 'E' then
    let exponent := rest.drop 1
    let isSigned := exponent.head? = some '+' ∨ exponent.head? = some '-'
    let digits := if isSigned then exponent.drop 1 else exponent
    if digits.head?.any Char.isDigit then
      (afterDigits Char.isDigit digits).bind afterImaginary
    else if isSigned then none
    else numberEnd rest
  else afterImaginary rest

/-- What follows a number of which the point is read. -/
def afterPoint (rest : List Char) : Option (List Char) :=
  if rest.head?.any Char.isDigit then (afterDigits Char.isDigit rest).bind afterExponent
  else afterExponent rest

/-- What follows a number that begins with a digit. -/
def afterWhole (rest : List Char) : Option (List Char) :=
  match rest with
  | '.' :: rest => afterPoint rest
  | _ => afterExponent rest

/-- A number that begins with zero: another base, or a number that is no other integer. -/
def afterZero (rest : List Char) : Option (List Char) :=
  match rest with
  | 'x' :: digits => afterBase isHexDigit digits
  | 'X' :: digits => afterBase isHexDigit digits
  | 'o' :: digits => afterBase isOctalDigit digits
  | 'O' :: digits => afterBase isOctalDigit digits
  | 'b' :: digits => afterBase isBinaryDigit digits
  | 'B' :: digits => afterBase isBinaryDigit digits
  | _ =>
    (afterDigits Char.isDigit rest).bind fun after =>
      let digits := rest.take (rest.length - after.length)
      let isNotInteger := after.head?.any fun next =>
        next == '.' || next == 'e' || next == 'E' || next == 'j' || next == 'J'
      if isNotInteger || digits.all (fun digit => digit == '0' || digit == '_') then
        afterWhole after
      else none

/-- What follows the number that a text begins with. -/
def afterNumber (text : List Char) : Option (List Char) :=
  match text with
  | '.' :: rest => afterPoint rest
  | '0' :: rest => afterZero rest
  | _ :: rest => (afterDigits Char.isDigit rest).bind afterWhole
  | [] => none

/-! ## Text literals -/

/-- The body of a literal after its opening quote, and what follows its closing quote.  A
literal between single quotes ends on its line unless the line end is escaped. -/
def closeSingle (quote : Char) : List Char → Option (List Char × List Char)
  | [] => none
  | '\\' :: [] => none
  | '\\' :: escaped :: rest =>
    (closeSingle quote rest).map fun (body, after) => ('\\' :: escaped :: body, after)
  | next :: rest =>
    if next = quote then some ([], rest)
    else if next = '\n' then none
    else (closeSingle quote rest).map fun (body, after) => (next :: body, after)

/-- As for a single quote, with three quotes at the end and any lines between. -/
def closeTriple (quote : Char) : List Char → Option (List Char × List Char)
  | [] => none
  | '\\' :: [] => none
  | '\\' :: escaped :: rest =>
    (closeTriple quote rest).map fun (body, after) => ('\\' :: escaped :: body, after)
  | next :: rest =>
    if next = quote ∧ [quote, quote].isPrefixOf rest then some ([], rest.drop 2)
    else (closeTriple quote rest).map fun (body, after) => (next :: body, after)

def closeText (quote : Char) (text : List Char) : Option (List Char × List Char) :=
  if [quote, quote].isPrefixOf text then closeTriple quote (text.drop 2)
  else closeSingle quote text

/-! ## Symbols -/

def symbolsOfThree : List String := ["...", "**=", "//=", "<<=", ">>="]

def symbolsOfTwo : List String :=
  ["!=", "%=", "&=", "**", "*=", "+=", "-=", "->", "//", "/=", ":=", "<<", "<=", "<>", "==", ">=",
    ">>", "@=", "^=", "|="]

/-- The longest symbol that a text begins with. -/
def symbolLength (text : List Char) : Nat :=
  if symbolsOfThree.contains (String.ofList (text.take 3)) then 3
  else if symbolsOfTwo.contains (String.ofList (text.take 2)) then 2
  else 1

def closerOf (opener : Char) : Char :=
  if opener = '(' then ')' else if opener = '[' then ']' else '}'

/-! ## The scanner -/

/-- Where the scanner stands: what is left, the line, the widths of the open blocks and the open
brackets with their lines, innermost first. -/
structure Position where
  rest : List Char
  line : Nat
  blocks : List (Nat × Nat)
  brackets : List (Char × Nat)

namespace Position

def begin (text : List Char) (line : Nat) : Position :=
  { rest := text, line, blocks := [], brackets := [] }

def token (position : Position) (lexeme : Lexeme) : Token :=
  { lexeme, line := position.line, depth := position.brackets.length }

def openBracket (position : Position) : Option Nat := position.brackets.head?.map Prod.snd

def decisiveFault (position : Position) (line : Nat) : Fault :=
  { line, decisive := true, openBracket := position.openBracket }

def fault (position : Position) (line : Nat) : Fault :=
  { line, decisive := false, openBracket := position.openBracket }

/-- Goes to the next line.  After the last line the line number stays. -/
def afterLineEnd (position : Position) (rest : List Char) : Position :=
  { position with rest, line := if rest.isEmpty then position.line else position.line + 1 }

end Position

/-- The outcome of one step: tokens in order and where to go on, or the end of the tokens. -/
inductive Step where
  | next (tokens : List Token) (position : Position) (lineBegins : Bool)
  | last (tokens : List Token) (fault : Option Fault)

/-- Blocks may be nested this deeply, the outermost level included. -/
def greatestIndentation : Nat := 100

def greatestBracketDepth : Nat := 200

/-- The width of the white space at the beginning of a line: by tab stops of eight columns, with
a tab as one column, and where a backslash first continued the line. -/
structure Indentation where
  column : Nat
  narrow : Nat
  continued : Nat

/-- Measures the white space at the beginning of a line. -/
def measure (width : Indentation) (position : Position) :
    List Char → Except Fault (Indentation × Position)
  | ' ' :: rest =>
    measure { width with column := width.column + 1, narrow := width.narrow + 1 } position rest
  | '\t' :: rest =>
    measure { width with column := (width.column / 8 + 1) * 8, narrow := width.narrow + 1 }
      position rest
  | '\x0c' :: rest => measure { width with column := 0, narrow := 0 } position rest
  | '\\' :: '\n' :: rest =>
    if rest.isEmpty then .error (position.fault position.line)
    else
      let continued := if width.continued = 0 then width.column else width.continued
      measure { width with continued } { position with line := position.line + 1 } rest
  | '\\' :: _ => .error (position.fault position.line)
  | rest => .ok (width, { position with rest })

/-- The columns that count: those of the first line of a continued one. -/
def Indentation.columns (width : Indentation) : Nat × Nat :=
  if width.continued = 0 then (width.column, width.narrow) else (width.continued, width.continued)

/-- Opens or closes blocks for a line whose text begins at the given columns. -/
def enterLine (columns : Nat × Nat) (position : Position) : Step :=
  let current := position.blocks.headD (0, 0)
  let refused := Step.last [] (some (position.fault position.line))
  if columns.1 = current.1 then
    if columns.2 = current.2 then .next [] position false else refused
  else if current.1 < columns.1 then
    if greatestIndentation ≤ position.blocks.length + 1 ∨ columns.2 ≤ current.2 then refused
    else
      .next [position.token .indent] { position with blocks := columns :: position.blocks } false
  else
    let blocks := position.blocks.dropWhile fun block => columns.1 < block.1
    let closed := List.replicate (position.blocks.length - blocks.length) (position.token .dedent)
    if blocks.headD (0, 0) = columns then .next closed { position with blocks } false
    else refused

/-- The beginning of a line.  Lines without tokens are skipped, and inside brackets the
indentation is free. -/
def lineStep (position : Position) : Step :=
  match measure { column := 0, narrow := 0, continued := 0 } position position.rest with
  | .error fault => .last [] (some fault)
  | .ok (width, position) =>
    if position.rest.head? = some '#' ∨ position.rest.head? = some '\n' then
      .next [] (position.afterLineEnd ((position.rest.dropWhile (· ≠ '\n')).drop 1)) true
    else if position.brackets.isEmpty then enterLine width.columns position
    else .next [] position false

/-- A text literal, after its prefix letters. -/
def textStep (position : Position) (marks : List Char) (quote : Char) (text : List Char) : Step :=
  match closeText quote text with
  | none => .last [] (some (position.decisiveFault position.line))
  | some (body, rest) =>
    .next [position.token (.text marks body)]
      { position with rest, line := position.line + body.count '\n' } false

def wordStep (position : Position) : Step :=
  let word := position.rest.takeWhile isWordCharacter
  let rest := position.rest.dropWhile isWordCharacter
  let plain :=
    if word.all (fun character => character.toNat < 0x80) || isIdentifier word then
      Step.next [position.token (.word (String.ofList word))] { position with rest } false
    else .last [] (some (position.decisiveFault position.line))
  match rest with
  | quote :: text =>
    if (quote = '\'' ∨ quote = '"') ∧ isTextMark word then textStep position word quote text
    else plain
  | [] => plain

def numberStep (position : Position) : Step :=
  match afterNumber position.rest with
  | none => .last [] (some (position.decisiveFault position.line))
  | some rest =>
    let spelling := position.rest.take (position.rest.length - rest.length)
    .next [position.token (.number spelling)] { position with rest } false

/-- A symbol; brackets are matched. -/
def symbolStep (position : Position) (first : Char) : Step :=
  let length := symbolLength position.rest
  let symbol := Lexeme.symbol (String.ofList (position.rest.take length))
  let after := { position with rest := position.rest.drop length }
  let refused := Step.last [] (some (position.decisiveFault position.line))
  if first = '(' ∨ first = '[' ∨ first = '{' then
    if greatestBracketDepth ≤ position.brackets.length then refused
    else
      let opened := { after with brackets := (first, position.line) :: position.brackets }
      .next [opened.token symbol] opened false
  else if first = ')' ∨ first = ']' ∨ first = '}' then
    match position.brackets with
    | [] => refused
    | (opener, _) :: brackets =>
      let closed := { after with brackets }
      if closerOf opener = first then .next [closed.token symbol] closed false
      else .last [] (some (closed.decisiveFault position.line))
  else if Text.isPrintable first then .next [position.token symbol] after false
  else refused

/-- One token inside a line. -/
def tokenStep (position : Position) : Step :=
  let text := position.rest.dropWhile fun next => next == ' ' || next == '\t' || next == '\x0c'
  let text := if text.head? = some '#' then text.dropWhile (· ≠ '\n') else text
  let position := { position with rest := text }
  match text with
  | [] =>
    match position.openBracket with
    | some line => .last [] (some (position.fault line))
    | none => .last [position.token .final] none
  | '\n' :: rest =>
    let after := position.afterLineEnd rest
    .next (if position.brackets.isEmpty then [position.token .newline] else []) after true
  | '\\' :: '\n' :: rest =>
    if rest.isEmpty then .last [] (some (position.fault position.line))
    else .next [] (position.afterLineEnd rest) false
  | '\\' :: _ => .last [] (some (position.fault position.line))
  | first :: rest =>
    if isWordCharacter first && !first.isDigit then wordStep position
    else if first.isDigit || (first == '.' && rest.head?.any Char.isDigit) then
      numberStep position
    else if first == '\'' || first == '"' then textStep position [] first rest
    else symbolStep position first

/-- Runs the scanner; the first argument bounds the number of steps. -/
def scanFrom : Nat → Bool → Position → Array Token → Scan
  | 0, _, _, tokens => { tokens, fault := none }
  | steps + 1, lineBegins, position, tokens =>
    match if lineBegins then lineStep position else tokenStep position with
    | .next more position lineBegins =>
      scanFrom steps lineBegins position (tokens ++ more.toArray)
    | .last more fault => { tokens := tokens ++ more.toArray, fault }

/-- The tokens of a text whose first line has the given number.  The last line is ended. -/
def scan (text : List Char) (line : Nat) : Scan :=
  let text := if text.getLast? = some '\n' then text else text ++ ['\n']
  scanFrom (2 * text.length + 3) true (Position.begin text line) #[]

end ApiDocs.Source
