import ApiDocs.Exhaustion
import ApiDocs.Number.Shortest
import ApiDocs.Source.Tree
import ApiDocs.Text.Lines
import ApiDocs.Text.Quoted

/-!
Writing expressions on one line, with as few parentheses as the levels of binding allow.
-/

namespace ApiDocs.Source

open ApiDocs.Text (join)

/-- Why an expression cannot be written. -/
inductive PrintFault where
  /-- A replacement field would need a backslash. -/
  | backslashNeeded
  | exhausted (exhaustion : Exhaustion)
deriving DecidableEq, Repr

def PrintFault.message : PrintFault → String
  | backslashNeeded => "Unable to avoid backslash in f-string expression part"
  | exhausted exhaustion => exhaustion.message

/-! ## Levels of binding -/

/-- How tightly an expression binds, or has to bind where it stands. -/
abbrev Level := Nat

namespace Level

def named : Level := 1
def tuple : Level := 2
def yield : Level := 3
def test : Level := 4
def disjunction : Level := 5
def conjunction : Level := 6
def negation : Level := 7
def comparison : Level := 8
def bitOr : Level := 9
def bitXor : Level := 10
def bitAnd : Level := 11
def shift : Level := 12
def sum : Level := 13
def term : Level := 14
def factor : Level := 15
def power : Level := 16
def await : Level := 17
def atom : Level := 18

/-- The next tighter level. -/
def next (level : Level) : Level := min (level + 1) atom

end Level

def UnaryOperator.level : UnaryOperator → Level
  | .logicalNot => .negation
  | _ => .factor

def UnaryOperator.text : UnaryOperator → String
  | .complement => "~"
  | .logicalNot => "not "
  | .plus => "+"
  | .minus => "-"

def BinaryOperator.level : BinaryOperator → Level
  | .add | .subtract => .sum
  | .multiply | .matrixMultiply | .divide | .remainder | .floorDivide => .term
  | .shiftLeft | .shiftRight => .shift
  | .bitOr => .bitOr
  | .bitXor => .bitXor
  | .bitAnd => .bitAnd
  | .power => .power

def BinaryOperator.text : BinaryOperator → String
  | .add => "+"
  | .subtract => "-"
  | .multiply => "*"
  | .matrixMultiply => "@"
  | .divide => "/"
  | .remainder => "%"
  | .floorDivide => "//"
  | .shiftLeft => "<<"
  | .shiftRight => ">>"
  | .bitOr => "|"
  | .bitXor => "^"
  | .bitAnd => "&"
  | .power => "**"

def LogicalOperator.level : LogicalOperator → Level
  | .conjunction => .conjunction
  | .disjunction => .disjunction

def LogicalOperator.text : LogicalOperator → String
  | .conjunction => " and "
  | .disjunction => " or "

def Relation.text : Relation → String
  | .equal => "=="
  | .unequal => "!="
  | .less => "<"
  | .lessOrEqual => "<="
  | .greater => ">"
  | .greaterOrEqual => ">="
  | .same => "is"
  | .notSame => "is not"
  | .memberOf => "in"
  | .notMemberOf => "not in"

/-! ## Texts between quotes -/

def singleQuotes : List (List Char) := [['\''], ['"']]

def tripleQuotes : List (List Char) := [['"', '"', '"'], ['\'', '\'', '\'']]

def allQuotes : List (List Char) := singleQuotes ++ tripleQuotes

/-- Whether a text has another inside. -/
def hasInside (pattern : List Char) : List Char → Bool
  | [] => pattern.isEmpty
  | next :: rest => pattern.isPrefixOf (next :: rest) || hasInside pattern rest

/-- A code point of a text between quotes that are chosen so as to avoid backslashes.  Line ends
and tabs may be kept. -/
def sparingly (escapesBlanks : Bool) (codePoint : Nat) : List Char :=
  if !escapesBlanks && (codePoint == 0x0A || codePoint == 0x09) then [Char.ofNat codePoint]
  else if Text.isWrittenPlain codePoint then [Char.ofNat codePoint]
  else Text.escapeByCode codePoint

/-- What stands between the quotes, and the quotes that it can stand between.  If none can, the
text is escaped as a literal, between the quote of that literal. -/
def betweenQuotes (codePoints : List Nat) (quotes : List (List Char)) (escapesBlanks : Bool) :
    List Char × List (List Char) :=
  let written := codePoints.flatMap (sparingly escapesBlanks)
  let possible := if written.contains '\n' then quotes.filter tripleQuotes.contains else quotes
  let possible := possible.filter fun quote => !hasInside quote written
  if possible.isEmpty then
    let literal := Text.quotedCodePoints codePoints
    let mark := literal.headD '\''
    ((literal.drop 1).dropLast, [(quotes.find? fun quote => quote.contains mark).getD [mark]])
  else
    match written.getLast? with
    | none => (written, possible)
    | some last =>
      let endsAs (quote : List Char) : Bool := quote.head? == some last
      let sorted := possible.filter (fun quote => !endsAs quote) ++ possible.filter endsAs
      if sorted.head?.any endsAs then (written.dropLast ++ ['\\', last], sorted)
      else (written, sorted)

/-- A text between quotes, with as few backslashes as can be. -/
def sparing (codePoints : List Nat) : List Char :=
  let (written, quotes) := betweenQuotes codePoints allQuotes false
  let quote := quotes.headD []
  quote ++ written ++ quote

/-- Braces of a formatted text are doubled. -/
def doubleBraces (codePoints : List Nat) : List Nat :=
  codePoints.flatMap fun codePoint =>
    if codePoint == 0x7B || codePoint == 0x7D then [codePoint, codePoint] else [codePoint]

/-- The parts of a formatted text between quotes that fit all of them: the parts in order narrow
down the quotes.  If no quote is left, none is returned. -/
def formattedParts : List (List Nat × Bool) → List (List Char) →
    Option (List (List Char) × List (List Char))
  | [], quotes => some ([], quotes)
  | (part, isPlain) :: parts, quotes =>
    let (written, possible) := betweenQuotes part quotes isPlain
    if possible.any quotes.contains then
      (formattedParts parts possible).map fun (others, quotes) => (written :: others, quotes)
    else none

/-- A part of a formatted text between three apostrophes: escaped as a literal that begins with a
quotation mark. -/
def escapedPart (part : List Nat) : List Char :=
  ((Text.quotedCodePoints (0x22 :: part)).drop 2).dropLast

/-- A formatted text of parts, of which some are plain characters. -/
def formattedText (parts : List (List Nat × Bool)) : List Char :=
  match formattedParts parts allQuotes with
  | some (written, quotes) =>
    let quote := quotes.headD []
    'f' :: quote ++ written.flatten ++ quote
  | none =>
    let quote := ['\'', '\'', '\'']
    'f' :: quote ++ (parts.map fun part => escapedPart part.1).flatten ++ quote

/-! ## Constants -/

/-- A real number; an infinite one is written as a number that is too large. -/
def realText (format : NumberFormat) : Double → List Char
  | .infinite _ => "1e309".toList
  | value => value.text format

/-- A constant, which may have to avoid backslashes. -/
def Literal.write (sparingly : Bool) : Literal → Except PrintFault (List Char)
  | .absent => .ok "None".toList
  | .truth true => .ok "True".toList
  | .truth false => .ok "False".toList
  | .ellipsis => .ok "...".toList
  | .integer value =>
    let digits := (toString value).toList
    if greatestDigitCount < digits.length then .error (.exhausted .digits) else .ok digits
  | .real value => .ok (realText .standard value)
  | .imaginary value => .ok (realText .imaginary value ++ ['j'])
  | .text codePoints marked =>
    let written := if sparingly then sparing codePoints else Text.quotedCodePoints codePoints
    .ok (if marked then 'u' :: written else written)
  | .bytes value => .ok (Text.quotedBytes value)

/-- Whether a point after the constant would belong to it. -/
def Literal.takesPoint : Literal → Bool
  | .integer _ | .truth _ => true
  | _ => false

/-! ## Expressions -/

def between (opening : Char) (inside : List Char) (closing : Char) : List Char :=
  opening :: inside ++ [closing]

/-- Parentheses around an expression that binds less tightly than its place asks for. -/
def parenthesesIf (needed : Bool) (inside : List Char) : List Char :=
  if needed then between '(' inside ')' else inside

def commas (items : List (List Char)) : List Char := join [',', ' '] items

/-- Items of a tuple: a single one is followed by a comma. -/
def tupleItems : List (List Char) → List Char
  | [item] => item ++ [',']
  | items => commas items

def Gathering.enclose : Gathering → List Char → List Char
  | .list, inside => between '[' inside ']'
  | .set, inside => between '\x7b' inside '\x7d'
  | .generator, inside => between '(' inside ')'

/-- The stars and separators that the roles of parameters call for. -/
structure ParameterText where
  role : ParameterRole
  written : List Char

/-- Parameters in order: a slash follows the last positional one, and a star stands before the
first one that is taken by name unless the remaining ones are taken by position. -/
def parameterTexts (parameters : List ParameterText) : List (List Char) :=
  let positional := parameters.filter fun parameter => parameter.role == .positional
  let ordinary := parameters.filter fun parameter => parameter.role == .ordinary
  let remainder := parameters.filter fun parameter => parameter.role == .remainder
  let named := parameters.filter fun parameter => parameter.role == .named
  let mapping := parameters.filter fun parameter => parameter.role == .remainderByName
  let written (group : List ParameterText) : List (List Char) := group.map ParameterText.written
  written positional ++ (if positional.isEmpty then [] else [['/']]) ++ written ordinary ++
    (if remainder.isEmpty then if named.isEmpty then [] else [['*']]
      else written remainder) ++
    written named ++ written mapping

/-- The marks before the name of a parameter. -/
def ParameterRole.stars : ParameterRole → List Char
  | .remainder => ['*']
  | .remainderByName => ['*', '*']
  | _ => []

def isTuple : Expr → Bool
  | .tuple (_ :: _) => true
  | _ => false

def takesPoint : Expr → Bool
  | .constant literal => literal.takesPoint
  | _ => false

/-- A replacement field around its written value. -/
def fieldText (value : List Char) (conversion : Option Char) (format : Option (List Nat)) :
    List Nat :=
  let space := if value.head? == some '\x7b' then [' '] else []
  let conversion := match conversion with
    | some letter => ['!', letter]
    | none => []
  let format := match format with
    | some codePoints => 0x3A :: codePoints
    | none => []
  (('\x7b' :: space ++ value ++ conversion).map Char.toNat) ++ format ++ [0x7D]

mutual

/-- An expression where a level of binding is asked for.  Inside a replacement field it is written
`sparingly`, without backslashes. -/
def Expr.write (sparingly : Bool) (context : Level) : Expr → Except PrintFault (List Char)
  | .name identifier => .ok identifier.toList
  | .constant literal => literal.write sparingly
  | .unary operator operand => do
    let operand ← operand.write sparingly operator.level
    return parenthesesIf (operator.level < context) (operator.text.toList ++ operand)
  | .binary operator left right => do
    let level := operator.level
    let isRight := operator = .power
    let left ← left.write sparingly (if isRight then level.next else level)
    let right ← right.write sparingly (if isRight then level else level.next)
    return parenthesesIf (level < context)
      (left ++ ' ' :: operator.text.toList ++ ' ' :: right)
  | .logical operator operands => do
    let operands ← writeTightening sparingly operator.level operands
    return parenthesesIf (operator.level < context) (join operator.text.toList operands)
  | .comparison first relations others => do
    let first ← first.write sparingly Level.comparison.next
    let others ← writeAll sparingly Level.comparison.next others
    let pairs := (relations.zip others).map fun (relation, other) =>
      ' ' :: relation.text.toList ++ ' ' :: other
    return parenthesesIf (Level.comparison < context) (first ++ pairs.flatten)
  | .conditional test body otherwise => do
    let body ← body.write sparingly Level.test.next
    let test ← test.write sparingly Level.test.next
    let otherwise ← otherwise.write sparingly .test
    return parenthesesIf (Level.test < context)
      (body ++ " if ".toList ++ test ++ " else ".toList ++ otherwise)
  | .lambda parameters body => do
    let parameters := commas (parameterTexts (← writeParameters sparingly parameters))
    let body ← body.write sparingly .test
    let head := if parameters.isEmpty then [] else ' ' :: parameters
    return parenthesesIf (Level.test < context) ("lambda".toList ++ head ++ ':' :: ' ' :: body)
  | .named target value => do
    let target ← target.write sparingly .atom
    let value ← value.write sparingly .atom
    return parenthesesIf (Level.named < context) (target ++ " := ".toList ++ value)
  | .attribute value member => do
    let written ← value.write sparingly .atom
    let space := if takesPoint value then [' '] else []
    return written ++ space ++ '.' :: member.toList
  | .subscript value (.tuple items) => do
    let value ← value.write sparingly .atom
    let items ← writeAll sparingly .test items
    return value ++ between '[' (if items.isEmpty then ['(', ')'] else tupleItems items) ']'
  | .subscript value index => do
    let value ← value.write sparingly .atom
    let index ← index.write sparingly .test
    return value ++ between '[' index ']'
  | .slice lower upper step => do
    let lower ← writeOptional sparingly lower
    let upper ← writeOptional sparingly upper
    let step ← writeOptional sparingly step
    return (lower.getD []) ++ ':' :: (upper.getD []) ++ (match step with
      | some step => ':' :: step
      | none => [])
  | .call callee arguments keywords => do
    let callee ← callee.write sparingly .atom
    let arguments ← writeAll sparingly .test arguments
    let keywords ← writeArguments sparingly keywords
    return callee ++ between '(' (commas (arguments ++ keywords)) ')'
  | .starred value => do
    return '*' :: (← value.write sparingly .bitOr)
  | .tuple items => do
    let written ← writeAll sparingly .test items
    return parenthesesIf (items.isEmpty || Level.tuple < context) (tupleItems written)
  | .list items => do
    return between '[' (commas (← writeAll sparingly .test items)) ']'
  | .set items => do
    return between '\x7b' (commas (← writeAll sparingly .test items)) '\x7d'
  | .dictionary items => do
    return between '\x7b' (commas (← writeItems sparingly items)) '\x7d'
  | .comprehension gathering element clauses => do
    let element ← element.write sparingly .test
    let clauses ← writeClauses sparingly clauses
    return gathering.enclose (element ++ clauses)
  | .dictionaryComprehension key value clauses => do
    let key ← key.write sparingly .test
    let value ← value.write sparingly .test
    let clauses ← writeClauses sparingly clauses
    return between '\x7b' (key ++ ':' :: ' ' :: value ++ clauses) '\x7d'
  | .await value => do
    let value ← value.write sparingly .atom
    return parenthesesIf (Level.await < context) ("await ".toList ++ value)
  | .yield none => .ok (parenthesesIf (Level.yield < context) "yield".toList)
  | .yield (some value) => do
    let value ← value.write sparingly .atom
    return parenthesesIf (Level.yield < context) ("yield ".toList ++ value)
  | .yieldFrom value => do
    let value ← value.write sparingly .atom
    return parenthesesIf (Level.yield < context) ("yield from ".toList ++ value)
  | .formatted pieces => do
    let parts ← writePieces pieces
    if sparingly then return 'f' :: sparing (parts.map Prod.fst).flatten
    else return formattedText parts

def writeAll (sparingly : Bool) (context : Level) :
    List Expr → Except PrintFault (List (List Char))
  | [] => .ok []
  | item :: items => do
    let item ← item.write sparingly context
    return item :: (← writeAll sparingly context items)

/-- Operands of which each has to bind more tightly than the one before. -/
def writeTightening (sparingly : Bool) (level : Level) :
    List Expr → Except PrintFault (List (List Char))
  | [] => .ok []
  | item :: items => do
    let item ← item.write sparingly level.next
    return item :: (← writeTightening sparingly level.next items)

def writeOptional (sparingly : Bool) : Option Expr → Except PrintFault (Option (List Char))
  | none => .ok none
  | some value => do
    return some (← value.write sparingly .test)

def writeArguments (sparingly : Bool) : List Argument → Except PrintFault (List (List Char))
  | [] => .ok []
  | .mk name value :: arguments => do
    let value ← value.write sparingly .test
    let written := match name with
      | some name => name.toList ++ '=' :: value
      | none => '*' :: '*' :: value
    return written :: (← writeArguments sparingly arguments)

def writeItems (sparingly : Bool) : List Item → Except PrintFault (List (List Char))
  | [] => .ok []
  | .mk none value :: items => do
    let value ← value.write sparingly .bitOr
    return ('*' :: '*' :: value) :: (← writeItems sparingly items)
  | .mk (some key) value :: items => do
    let key ← key.write sparingly .test
    let value ← value.write sparingly .test
    return (key ++ ':' :: ' ' :: value) :: (← writeItems sparingly items)

def writeClauses (sparingly : Bool) : List Clause → Except PrintFault (List Char)
  | [] => .ok []
  | .mk isAsync target source conditions :: clauses => do
    let target ← target.write sparingly .tuple
    let source ← source.write sparingly Level.test.next
    let conditions ← writeAll sparingly Level.test.next conditions
    let head := if isAsync then " async for " else " for "
    let tests := (conditions.map fun condition => " if ".toList ++ condition).flatten
    return head.toList ++ target ++ " in ".toList ++ source ++ tests ++
      (← writeClauses sparingly clauses)

def writeParameters (sparingly : Bool) : List Parameter → Except PrintFault (List ParameterText)
  | [] => .ok []
  | .mk role name type fallback :: parameters => do
    let type ← writeOptional sparingly type
    let fallback ← writeOptional sparingly fallback
    let typed := match type with
      | some type => ':' :: ' ' :: type
      | none => []
    let given := match fallback with
      | some value => '=' :: value
      | none => []
    let written := role.stars ++ name.toList ++ typed ++ given
    return { role, written } :: (← writeParameters sparingly parameters)

/-- The pieces of a formatted text before quotes are chosen; the flag marks plain characters. -/
def writePieces : List Piece → Except PrintFault (List (List Nat × Bool))
  | [] => .ok []
  | .text codePoints :: pieces => do
    return (doubleBraces codePoints, true) :: (← writePieces pieces)
  | .field value conversion format :: pieces => do
    let value ← value.write true Level.test.next
    if value.contains '\\' then throw .backslashNeeded
    let format ← writeFormat format
    return (fieldText value conversion format, false) :: (← writePieces pieces)

def writeFormat : Option (List Piece) → Except PrintFault (Option (List Nat))
  | none => .ok none
  | some pieces => do
    return some ((← writePieces pieces).map Prod.fst).flatten

end

/-- What is written as a whole: an expression by itself, or the parameters of a function. -/
inductive Phrase where
  | expression (expression : Expr)
  | parameters (parameters : List Parameter)

def Phrase.text : Phrase → Except PrintFault (List Char)
  | .expression written => written.write false .test
  | .parameters written => do
    return commas (parameterTexts (← writeParameters false written))

end ApiDocs.Source
