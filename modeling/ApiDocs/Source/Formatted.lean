import ApiDocs.Source.Literal

/-!
Formatted texts: splitting the body of a literal into characters and replacement fields.
-/

namespace ApiDocs.Source

/-! ## Characters between fields -/

/-- The end of a run of characters: the end of the text or a brace that is not doubled, or a
doubled brace, of which one is part of the run. -/
inductive RunEnd where
  | brace
  | doubledBrace
deriving DecidableEq

/-- The characters before the next field or the end.  Inside a format braces are not doubled; a
single closing brace outside is an error.  In a text with escapes a named character keeps its
braces. -/
def runOf? (isRaw isFormat isNamed : Bool) : List Char → Option (List Char × RunEnd × List Char)
  | [] => some ([], .brace, [])
  | next :: rest =>
    let goOn (isNamed : Bool) :=
      (runOf? isRaw isFormat isNamed rest).map fun (run, after) => (next :: run, after)
    if isNamed then goOn (next != '\x7d')
    else if next == '\\' && !isRaw then
      match rest with
      | [] => some ([next], .brace, [])
      | letter :: after =>
        if letter == '\x7b' || letter == '\x7d' then goOn false
        else
          let named := letter == 'N' && after.head? == some '\x7b'
          (runOf? isRaw isFormat named after).map fun (run, after) => (next :: letter :: run, after)
    else if next == '\x7b' || next == '\x7d' then
      if isFormat then some ([], .brace, next :: rest)
      else if rest.head? == some next then some ([next], .doubledBrace, rest.drop 1)
      else if next == '\x7d' then none
      else some ([], .brace, next :: rest)
    else goOn false

/-! ## Fields -/

/-- Operators of two characters that do not end the expression of a field. -/
def isComparison (first : Char) (rest : List Char) : Bool :=
  (first == '!' || first == '=' || first == '<' || first == '>') && rest.head? == some '='

/-- Where the search for the end of an expression stands: the open quote, which may be a triple
one, the open brackets, innermost first, and how many characters belong to the symbol before. -/
structure FieldScan where
  quote : Option (Char × Bool)
  brackets : List Char
  skip : Nat

inductive FieldStep where
  | goOn (scan : FieldScan)
  | ends
  | wrong

def greatestFieldDepth : Nat := 200

def closesBracket (opener closer : Char) : Bool :=
  (opener == '(' && closer == ')') || (opener == '[' && closer == ']') ||
    (opener == '\x7b' && closer == '\x7d')

/-- A character inside a quoted text of the expression. -/
def quotedStep (scan : FieldScan) (mark : Char) (isTriple : Bool) (next : Char)
    (rest : List Char) : FieldStep :=
  if next != mark then .goOn scan
  else if !isTriple then .goOn { scan with quote := none }
  else if [mark, mark].isPrefixOf rest then .goOn { scan with quote := none, skip := 2 }
  else .goOn scan

/-- A character outside of quotes. -/
def openStep (scan : FieldScan) (next : Char) (rest : List Char) : FieldStep :=
  if next == '\'' || next == '"' then
    if [next, next].isPrefixOf rest then .goOn { scan with quote := some (next, true), skip := 2 }
    else .goOn { scan with quote := some (next, false) }
  else if next == '[' || next == '\x7b' || next == '(' then
    if greatestFieldDepth ≤ scan.brackets.length then .wrong
    else .goOn { scan with brackets := next :: scan.brackets }
  else if next == '#' then .wrong
  else if scan.brackets.isEmpty && isComparison next rest then .goOn { scan with skip := 1 }
  else if scan.brackets.isEmpty && (next == '!' || next == ':' || next == '\x7d' || next == '=') then
    .ends
  else if next == ']' || next == '\x7d' || next == ')' then
    match scan.brackets with
    | [] => .wrong
    | opener :: brackets =>
      if closesBracket opener next then .goOn { scan with brackets } else .wrong
  else .goOn scan

/-- One character of an expression; a backslash must not occur. -/
def fieldStep (scan : FieldScan) (next : Char) (rest : List Char) : FieldStep :=
  if scan.skip ≠ 0 then .goOn { scan with skip := scan.skip - 1 }
  else if next == '\\' then .wrong
  else
    match scan.quote with
    | some (mark, isTriple) => quotedStep scan mark isTriple next rest
    | none => openStep scan next rest

/-- The expression of a field and what follows it: a conversion, a format, an equals sign or the
closing brace. -/
def fieldExpressionFrom? (scan : FieldScan) : List Char → Option (List Char × List Char)
  | [] => none
  | next :: rest =>
    match fieldStep scan next rest with
    | .wrong => none
    | .ends => some ([], next :: rest)
    | .goOn scan =>
      (fieldExpressionFrom? scan rest).map fun (expression, after) => (next :: expression, after)

def fieldExpression? (text : List Char) : Option (List Char × List Char) :=
  fieldExpressionFrom? { quote := none, brackets := [], skip := 0 } text

/-- White space before the parts of a field that follow an equals sign. -/
def isFieldBlank (character : Char) : Bool :=
  character == ' ' || ('\t' ≤ character && character ≤ '\r')

/-- White space that makes an expression empty. -/
def isEmptyExpression (expression : List Char) : Bool :=
  expression.all fun character =>
    character == ' ' || character == '\t' || character == '\n' || character == '\x0c'

/-! ## The pieces of a literal -/

/-- How the parts of a formatted text are read: the names of characters, the expression of a field
that stands on a line, and the line of errors of the text itself. -/
structure FieldReader where
  names : CharacterNames
  expression : Nat → List Char → Except Nat Expr
  errorLine : Nat

/-- Adjacent characters are one piece, and empty ones none. -/
def mergePieces : List Piece → List Piece
  | [] => []
  | .text codePoints :: pieces =>
    match codePoints, mergePieces pieces with
    | [], merged => merged
    | codePoints, .text more :: merged => .text (codePoints ++ more) :: merged
    | codePoints, merged => .text codePoints :: merged
  | piece :: pieces => piece :: mergePieces pieces

/-- Formats may hold fields, but those no further formats with fields. -/
def greatestFormatDepth : Nat := 2

/-- What follows an equals sign in a field; the sign and the blanks after it show the text of the
expression. -/
def afterEquals (rest : List Char) : List Char × List Char :=
  match rest with
  | '=' :: rest => ('=' :: rest.takeWhile isFieldBlank, rest.dropWhile isFieldBlank)
  | _ => ([], rest)

/-- The conversion that a field asks for. -/
def conversion? (rest : List Char) : Option (Option Char × List Char) :=
  match rest with
  | '!' :: letter :: rest =>
    if letter == 's' || letter == 'r' || letter == 'a' then some (some letter, rest) else none
  | ['!'] => none
  | _ => some (none, rest)

/-- The pieces of a text up to its end or, in a format, to the brace that closes it, and what
follows.  The first argument bounds the number of pieces. -/
def piecesOf (fields : FieldReader) (isRaw : Bool) :
    Nat → Nat → Nat → List Char → Except Nat (List Piece × List Char)
  | 0, _, _, _ => .error fields.errorLine
  | bound + 1, depth, line, text => do
    let wrong {α : Type} : Option α → Except Nat α
      | some value => .ok value
      | none => .error fields.errorLine
    let (run, ending, rest) ← wrong (runOf? isRaw (depth ≠ 0) false text)
    let codePoints ← wrong (textOfBody? fields.names isRaw run)
    let line := line + (text.take (text.length - rest.length)).count '\n'
    let piece := Piece.text codePoints
    if ending = .doubledBrace then
      let (pieces, rest) ← piecesOf fields isRaw bound depth line rest
      return (piece :: pieces, rest)
    match rest with
    | [] => return ([piece], [])
    | '\x7d' :: _ => return ([piece], rest)
    | _ :: body =>
      if greatestFormatDepth ≤ depth then throw fields.errorLine
      let (expression, rest) ← wrong (fieldExpression? body)
      if isEmptyExpression expression then throw fields.errorLine
      let value ← fields.expression line expression
      let (shown, rest) := afterEquals rest
      let shownText := if shown.isEmpty then [] else (expression ++ shown).map Char.toNat
      let (conversion, rest) ← wrong (conversion? rest)
      let (format, rest) ← match rest with
        | ':' :: rest => do
          let (pieces, rest) ← piecesOf fields isRaw bound (depth + 1)
            (line + (body.take (body.length - rest.length)).count '\n') rest
          pure (some (mergePieces pieces), rest)
        | _ => pure (none, rest)
      match rest with
      | '\x7d' :: rest =>
        let conversion :=
          if !shown.isEmpty && format.isNone && conversion.isNone then some 'r' else conversion
        let line := line + (body.take (body.length - rest.length)).count '\n'
        let (pieces, rest) ← piecesOf fields isRaw bound depth line rest
        return (piece :: .text shownText :: .field value conversion format :: pieces, rest)
      | _ => throw fields.errorLine

/-- The pieces of the body of a formatted literal that begins on a line. -/
def formattedPieces (fields : FieldReader) (isRaw : Bool) (line : Nat) (body : List Char) :
    Except Nat (List Piece) :=
  (piecesOf fields isRaw (body.length + 2) 0 line body).map Prod.fst

end ApiDocs.Source
