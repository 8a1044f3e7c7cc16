import ApiDocs.Source.Formatted
import ApiDocs.Source.Reader
import ApiDocs.Source.Target

/-!
The grammar of expressions, one rule per level of binding.  A rule that refers to a level above
its own takes it from `Rules`, so that every rule is a plain definition.
-/

namespace ApiDocs.Source

open Reader (mismatch refuse refuseFurthest orElse optional ahead diagnose plainly lexeme line
  advance accept expect symbol keyword isNext many many1 furtherItems iterate)

/-- The rules that other rules refer to from inside brackets, after an operator or in a block. -/
structure Rules where
  expression : Reader Operand
  disjunction : Reader Operand
  inversion : Reader Operand
  bitwiseOr : Reader Operand
  primary : Reader Operand
  factor : Reader Operand
  names : CharacterNames
  /-- The expression of a replacement field that stands on a line. -/
  field : Nat → List Char → Except Nat Expr

/-! ## Names and constants -/

def isName (spelling : String) : Bool := !keywords.contains spelling

/-- The identifier that a word spells. -/
def identifierOf (spelling : String) : String := String.ofList (Text.normalForm spelling.toList)

/-- A word that is no keyword. -/
def name : Reader String := do
  match ← lexeme with
  | .word spelling =>
    if isName spelling then
      advance
      return identifierOf spelling
    else mismatch
  | _ => mismatch

/-- One of the words that are no keywords everywhere. -/
def softKeyword (spelling : String) : Reader Unit := keyword spelling

def number (spelling : List Char) : Reader Operand := do
  let line ← line
  match numberOf? spelling with
  | some literal =>
    advance
    return .plain (.constant literal) line
  | none => refuse line

/-- The text literals that stand side by side. -/
structure TextLexeme where
  marks : List Char
  body : List Char
  line : Nat

def textLexeme : Reader TextLexeme := do
  let token ← Reader.token
  match token.lexeme with
  | .text marks body =>
    advance
    return { marks, body, line := token.line }
  | _ => mismatch

/-- The bytes of literals that are joined; all have to be byte literals. -/
def joinedBytes (literals : List TextLexeme) : Option (List UInt8) :=
  literals.foldr (fun literal joined => do
    let rest ← joined
    let bytes ← bytesOfBody? (hasMark literal.marks 'r') literal.body
    pure (bytes ++ rest)) (some [])

/-- The pieces of a literal that is joined with others. -/
def literalPieces (fields : FieldReader) (literal : TextLexeme) : Except Nat (List Piece) :=
  let isRaw := hasMark literal.marks 'r'
  if hasMark literal.marks 'f' then formattedPieces fields isRaw literal.line literal.body
  else
    match textOfBody? fields.names isRaw literal.body with
    | some codePoints => .ok [.text codePoints]
    | none => .error fields.errorLine

/-- The value of literals that stand side by side; an error is the line that it is reported on.
Byte literals do not mix with others, and one formatted literal makes all of them formatted. -/
def joinLiterals (fields : FieldReader) (literals : List TextLexeme) : Except Nat Expr :=
  let areBytes := literals.map fun literal => hasMark literal.marks 'b'
  if areBytes.any id then
    match literals.find? fun literal =>
        hasMark literal.marks 'b' && literal.body.any fun next => next.toNat ≥ 0x80 with
    | some literal => .error literal.line
    | none =>
      if areBytes.all id then
        match joinedBytes literals with
        | some bytes => .ok (.constant (.bytes bytes))
        | none => .error fields.errorLine
      else .error fields.errorLine
  else do
    let pieces := mergePieces (← literals.mapM (literalPieces fields)).flatten
    if literals.any fun literal => hasMark literal.marks 'f' then return .formatted pieces
    let isMarked := (literals.head?.map TextLexeme.marks) = some ['u']
    match pieces with
    | [.text codePoints] => return .constant (.text codePoints isMarked)
    | _ => return .constant (.text [] isMarked)

/-- Text literals that stand side by side. -/
def texts (rules : Rules) : Reader Operand := do
  let line ← line
  let literals ← many1 textLexeme
  fun input position furthest =>
    let fields : FieldReader :=
      { names := rules.names
        expression := rules.field
        errorLine := lineOfToken input.scan furthest }
    match joinLiterals fields literals with
    | .ok tree => .matched (.plain tree line) position furthest
    | .error line => .refused (.rule line) furthest

/-! ## Targets and comprehensions -/

/-- Whether a name with an assignment operator follows. -/
def isNamedAhead : Reader Bool := do
  return (← ahead (name >>= fun _ => symbol ":=")).isSome

/-- `name := value`. -/
def assignmentExpression (rules : Rules) : Reader Operand := do
  let line ← line
  let target ← name
  symbol ":="
  let value ← rules.expression
  return .plain (.named (.name target) value.tree) line

/-- Mistakes around a condition or element: an assignment to something else than a name, or a
single equals sign. -/
def diagnoseEquals (rules : Rules) (operand : Operand) : Reader Unit := do
  if ← accept (.symbol ":=") then
    discard rules.expression
    refuse operand.line
  else
    let isDisplay := match operand.tree with
      | .list _ | .tuple _ | .comprehension .generator _ _ | .constant .absent
      | .constant (.truth _) => true
      | _ => false
    if isDisplay then mismatch
    symbol "="
    discard rules.bitwiseOr
    match ← lexeme with
    | .symbol "=" | .symbol ":=" => mismatch
    | _ => refuse operand.line

/-- An expression that may be given a name. -/
def namedExpression (rules : Rules) : Reader Operand := do
  if ← isNamedAhead then assignmentExpression rules
  else
    let operand ← rules.expression
    diagnose (diagnoseEquals rules operand)
    if ← isNext (.symbol ":=") then mismatch else return operand

/-- `*` before something that is read by a rule. -/
def starredBy (reader : Reader Operand) : Reader Operand := do
  let line ← line
  symbol "*"
  let value ← reader
  return { tree := .starred value.tree, line, shape := .starred line value.shape }

/-- An item of a display: starred, or an expression that may be given a name. -/
def displayItem (rules : Rules) : Reader Operand := do
  if ← isNext (.symbol "*") then starredBy rules.bitwiseOr else namedExpression rules

/-- An item of an expression list: starred, or an expression. -/
def listItem (rules : Rules) : Reader Operand := do
  if ← isNext (.symbol "*") then starredBy rules.bitwiseOr else rules.expression

def isStarred (operand : Operand) : Bool :=
  match operand.tree with
  | .starred _ => true
  | _ => false

def tupleOf (line : Nat) (items : List Operand) : Operand :=
  { tree := .tuple (items.map Operand.tree), line, shape := .sequence (items.map Operand.shape) }

/-- Expressions with commas between make a tuple. -/
def expressionList (rules : Rules) : Reader Operand := do
  let first ← listItem rules
  match ← furtherItems (listItem rules) with
  | ([], false) => return first
  | (others, _) => return tupleOf first.line (first :: others)

/-- `yield`, with what it gives. -/
def yieldExpression (rules : Rules) : Reader Operand := do
  let line ← line
  keyword "yield"
  if ← accept (.word "from") then
    let value ← rules.expression
    return .plain (.yieldFrom value.tree) line
  else
    let value ← optional (expressionList rules)
    return .plain (.yield (value.map Operand.tree)) line

/-! ## Parameters -/

/-- What was read of a list of parameters. -/
structure ParameterList where
  parameters : List Parameter
  hasSlash : Bool
  hasStar : Bool
  hasFallback : Bool

def emptyParameterList : ParameterList :=
  { parameters := [], hasSlash := false, hasStar := false, hasFallback := false }

/-- The parameters before a slash take arguments by position only. -/
def markPositional : Parameter → Parameter
  | .mk _ name type fallback => .mk .positional name type fallback

/-- A type after a colon, where types are written. -/
def parameterType (rules : Rules) (isTyped mayBeStarred : Bool) : Reader (Option Expr) := do
  if isTyped then
    if ← accept (.symbol ":") then
      let type ← if mayBeStarred then listItem rules else rules.expression
      return some type.tree
    else return none
  else return none

/-- The comma after a parameter, which may be missing before the closing token. -/
def parameterEnd (closing : Lexeme) : Reader Unit := do
  if ← accept (.symbol ",") then return ()
  else if ← isNext closing then return () else mismatch

/-- A parameter with a name of its own, with its type and default. -/
def plainParameter (rules : Rules) (isTyped : Bool) (closing : Lexeme) (list : ParameterList) :
    Reader ParameterList := do
  let line ← line
  let name ← name
  let type ← parameterType rules isTyped false
  let fallback ← if ← accept (.symbol "=") then some <$> rules.expression else pure none
  let role := if list.hasStar then ParameterRole.named else .ordinary
  let parameter := Parameter.mk role name type (fallback.map Operand.tree)
  if fallback.isNone && list.hasFallback && !list.hasStar then
    diagnose (parameterEnd closing >>= fun _ => refuse line)
    mismatch
  parameterEnd closing
  return { list with
    parameters := list.parameters ++ [parameter]
    hasFallback := list.hasFallback || fallback.isSome }

/-- `*` with a name, or alone before parameters that are taken by name. -/
def starParameter (rules : Rules) (isTyped : Bool) (closing : Lexeme) (list : ParameterList) :
    Reader ParameterList := do
  let line ← line
  symbol "*"
  let list := { list with hasStar := true }
  if ← accept (.symbol ",") then
    match ← lexeme with
    | .word spelling => if isName spelling then return list else mismatch
    | found =>
      if found = closing || found = .symbol "**" then diagnose (refuse line)
      mismatch
  else if ← isNext closing then
    diagnose (refuse line)
    mismatch
  else
    let name ← name
    let type ← parameterType rules isTyped true
    parameterEnd closing
    let parameter := Parameter.mk .remainder name type none
    return { list with parameters := list.parameters ++ [parameter] }

/-- Parameters up to a closing token, which is not read. -/
def parameterList (rules : Rules) (isTyped : Bool) (closing : Lexeme) :
    Reader (List Parameter) :=
  iterate (fun list => do
    match ← lexeme with
    | .symbol "/" =>
      if list.hasSlash || list.hasStar || list.parameters.isEmpty then mismatch
      advance
      parameterEnd closing
      let parameters := list.parameters.map markPositional
      return .inl { list with parameters, hasSlash := true }
    | .symbol "*" =>
      if list.hasStar then mismatch
      return .inl (← starParameter rules isTyped closing list)
    | .symbol "**" =>
      advance
      let name ← name
      let type ← parameterType rules isTyped false
      parameterEnd closing
      if ← isNext closing then
        return .inr (list.parameters ++ [.mk .remainderByName name type none])
      else mismatch
    | found =>
      if found = closing then return .inr list.parameters
      else return .inl (← plainParameter rules isTyped closing list)) emptyParameterList

/-- `lambda`. -/
def lambdaExpression (rules : Rules) : Reader Operand := do
  let line ← line
  keyword "lambda"
  let parameters ← parameterList rules false (.symbol ":")
  symbol ":"
  let body ← rules.expression
  return .plain (.lambda parameters body.tree) line

/-! ## Primaries -/

/-- A target of a loop: a primary that can be assigned to, perhaps starred. -/
def loopTarget (rules : Rules) : Reader Operand := do
  let target ← if ← isNext (.symbol "*") then starredBy rules.primary else rules.primary
  if target.shape.isTarget then return target else mismatch

/-- The targets of a loop. -/
def loopTargets (rules : Rules) : Reader Operand := do
  let first ← loopTarget rules
  match ← furtherItems (loopTarget rules) with
  | ([], false) => return first
  | (others, _) => return tupleOf first.line (first :: others)

/-- What stands between `for` and `in`, with both words. -/
def loopHead (rules : Rules) : Reader Operand := do
  keyword "for"
  let targets ← orElse (loopTargets rules >>= fun targets => do
      keyword "in"
      return targets) (do
    diagnose (do
      let wrong ← expressionList rules
      match wrong.shape.faultLine? .loop with
      | some line => refuse line
      | none => mismatch)
    mismatch)
  return targets

/-- A clause of a comprehension. -/
def clause (rules : Rules) : Reader Clause := do
  let isAsync ← accept (.word "async")
  let target ← loopHead rules
  let source ← rules.disjunction
  let conditions ← many (keyword "if" >>= fun _ => rules.disjunction)
  return .mk isAsync target.tree source.tree (conditions.map Operand.tree)

/-- The clauses of a comprehension, if there are any. -/
def clauses (rules : Rules) : Reader (List Clause) := do
  match ← lexeme with
  | .word "for" => many1 (clause rules)
  | .word "async" => many1 (clause rules)
  | _ => return []

/-- Refuses clauses that follow here, with an error on a line. -/
def refuseClauses (rules : Rules) (line : Nat) : Reader Unit :=
  diagnose (do
    let found ← clauses rules
    if found.isEmpty then mismatch else refuse line)

/-- The items of a display after its first one, up to the closing bracket. -/
def displayItems (rules : Rules) (first : Operand) (closing : String) :
    Reader (List Operand) := do
  let (others, _) ← furtherItems (displayItem rules)
  if closing != ")" then refuseClauses rules first.line
  symbol closing
  return first :: others

/-- A comprehension after its element; a starred element cannot be gathered. -/
def comprehensionAfter (rules : Rules) (gathering : Gathering)
    (line : Nat) (element : Operand) (closing : String) : Reader Operand := do
  if isStarred element then
    refuseClauses rules element.line
    mismatch
  let clauses ← clauses rules
  if clauses.isEmpty then mismatch
  symbol closing
  return .plain (.comprehension gathering element.tree clauses) line

/-- After an opening parenthesis: a tuple, a generator, or an expression in parentheses, which
keeps its own line and shape. -/
def parenthesised (rules : Rules) (line : Nat) : Reader Operand := do
  match ← lexeme with
  | .symbol ")" =>
    advance
    return tupleOf line []
  | .word "yield" =>
    let value ← yieldExpression rules
    symbol ")"
    return value
  | _ =>
    let first ← displayItem rules
    match ← lexeme with
    | .symbol ")" =>
      if isStarred first then
        diagnose (refuse first.line)
        mismatch
      advance
      return first
    | .symbol "," => return tupleOf line (← displayItems rules first ")")
    | _ => comprehensionAfter rules .generator line first ")"

/-- After an opening square bracket: a list or a list comprehension. -/
def listDisplay (rules : Rules) (line : Nat) : Reader Operand := do
  let listOf (items : List Operand) : Operand :=
    { tree := .list (items.map Operand.tree), line, shape := .sequence (items.map Operand.shape) }
  if ← accept (.symbol "]") then return listOf []
  else
    let first ← displayItem rules
    match ← lexeme with
    | .symbol "]" | .symbol "," => return listOf (← displayItems rules first "]")
    | _ => comprehensionAfter rules .list line first "]"

/-- A value after the colon of a dictionary item.  Mistakes are a starred value and a missing
one. -/
def itemValue (rules : Rules) : Reader Operand := do
  let colon ← line
  symbol ":"
  diagnose (do
    match ← lexeme with
    | .symbol "*" =>
      let star ← line
      discard (starredBy rules.bitwiseOr)
      refuse star
    | .symbol "\x7d" | .symbol "," => refuse colon
    | _ => mismatch)
  rules.expression

/-- An item of a dictionary: a pair, or a mapping that is unpacked. -/
def dictionaryItem (rules : Rules) : Reader Item := do
  if ← accept (.symbol "**") then
    let value ← rules.bitwiseOr
    return .mk none value.tree
  else
    let key ← rules.expression
    if ← isNext (.symbol ":") then
      let value ← itemValue rules
      return .mk (some key.tree) value.tree
    else
      diagnose (refuse key.line)
      mismatch

/-- A dictionary after its first item. -/
def dictionaryAfter (rules : Rules) (line : Nat) (first : Item) : Reader Operand := do
  let (others, _) ← furtherItems (dictionaryItem rules)
  symbol "\x7d"
  return .plain (.dictionary (first :: others)) line

/-- A set or a set comprehension after its first item. -/
def setAfter (rules : Rules) (line : Nat) (first : Operand) :
    Reader Operand := do
  match ← lexeme with
  | .symbol "\x7d" | .symbol "," =>
    let items ← displayItems rules first "\x7d"
    return .plain (.set (items.map Operand.tree)) line
  | _ => comprehensionAfter rules .set line first "\x7d"

/-- After an opening brace: a dictionary, a set or a comprehension of one of them. -/
def braces (rules : Rules) (line : Nat) : Reader Operand := do
  match ← lexeme with
  | .symbol "\x7d" =>
    advance
    return .plain (.dictionary []) line
  | .symbol "**" =>
    let stars ← Reader.line
    let first ← dictionaryItem rules
    refuseClauses rules stars
    dictionaryAfter rules line first
  | .symbol "*" => setAfter rules line (← displayItem rules)
  | _ =>
    if ← isNamedAhead then setAfter rules line (← displayItem rules)
    else
      let key ← rules.expression
      if ← isNext (.symbol ":") then
        let value ← itemValue rules
        let clauses ← clauses rules
        if clauses.isEmpty then dictionaryAfter rules line (.mk (some key.tree) value.tree)
        else
          symbol "\x7d"
          return .plain (.dictionaryComprehension key.tree value.tree clauses) line
      else
        diagnose (diagnoseEquals rules key)
        if ← isNext (.symbol ":=") then mismatch
        setAfter rules line key

/-- What an expression begins with: a name, a constant or something in brackets. -/
def atom (rules : Rules) : Reader Operand := do
  let token ← Reader.token
  let constant (literal : Literal) : Reader Operand := do
    advance
    return .plain (.constant literal) token.line
  match token.lexeme with
  | .word "True" => constant (.truth true)
  | .word "False" => constant (.truth false)
  | .word "None" => constant .absent
  | .word _ =>
    return { tree := .name (← name), line := token.line, shape := .single }
  | .number spelling => number spelling
  | .text _ _ => texts rules
  | .symbol "..." => constant .ellipsis
  | .symbol "(" =>
    advance
    parenthesised rules token.line
  | .symbol "[" =>
    advance
    listDisplay rules token.line
  | .symbol "\x7b" =>
    advance
    braces rules token.line
  | _ => mismatch

/-! ## Calls and subscripts -/

/-- How far the arguments of a call have come: after a keyword argument no plain one follows, and
after an unpacked mapping no unpacked sequence. -/
inductive ArgumentPhase where
  | plain
  | keywords
  | mappings
deriving DecidableEq

structure ArgumentList where
  /-- Whether a generator without parentheses of its own may be the only argument. -/
  takesGenerator : Bool
  phase : ArgumentPhase
  /-- In reverse. -/
  arguments : List Operand
  /-- In reverse. -/
  keywords : List Argument
  firstLine : Option Nat

def emptyArgumentList (takesGenerator : Bool) : ArgumentList :=
  { takesGenerator, phase := .plain, arguments := [], keywords := [], firstLine := none }

/-- The name of a keyword argument, with its equals sign. -/
def argumentName : Reader String := do
  let name ← name
  symbol "="
  return name

/-- A plain argument.  In a call, a generator needs no parentheses of its own where it is the only
argument. -/
def plainArgument (rules : Rules) (list : ArgumentList) :
    Reader ArgumentList := do
  let isNamed ← isNamedAhead
  let value ← if isNamed then assignmentExpression rules else rules.expression
  match ← lexeme with
  | .symbol "=" =>
    if !isNamed then diagnose (refuse value.line)
    mismatch
  | .symbol ":=" => mismatch
  | .word "for" | .word "async" =>
    let isFirst := list.firstLine.isNone
    if !isFirst then refuseClauses rules value.line
    let clauses ← clauses rules
    if !isFirst then mismatch
    if ← isNext (.symbol ",") then diagnose (refuse value.line)
    let isLast ← isNext (.symbol ")")
    if isLast && list.takesGenerator then
      let generator := Operand.plain (.comprehension .generator value.tree clauses) value.line
      return { list with arguments := [generator], firstLine := some value.line }
    else mismatch
  | _ =>
    if list.phase = .plain then return { list with arguments := value :: list.arguments }
    else mismatch

/-- One argument of a call. -/
def argument (rules : Rules) (list : ArgumentList) :
    Reader ArgumentList := do
  let line ← line
  let list' := { list with firstLine := list.firstLine <|> some line }
  match ← lexeme with
  | .symbol "*" =>
    if list.phase = .mappings then
      diagnose (refuse (list.firstLine.getD line))
      mismatch
    let value ← starredBy rules.expression
    return { list' with arguments := value :: list.arguments }
  | .symbol "**" =>
    advance
    let value ← rules.expression
    let keywords := Argument.mk none value.tree :: list.keywords
    return { list' with phase := .mappings, keywords }
  | _ =>
    match ← optional argumentName with
    | some name =>
      let value ← rules.expression
      refuseClauses rules line
      let phase := if list.phase = .plain then ArgumentPhase.keywords else list.phase
      return { list' with phase, keywords := Argument.mk (some name) value.tree :: list.keywords }
    | none =>
      let list ← plainArgument rules list
      return { list with firstLine := list.firstLine <|> some line }

/-- The arguments of a call up to its closing parenthesis, which is read. -/
def arguments (rules : Rules) (takesGenerator : Bool) :
    Reader (List Operand × List Argument) :=
  iterate (fun list => do
    if ← accept (.symbol ")") then
      return .inr (list.arguments.reverse, list.keywords.reverse)
    else
      let list ← argument rules list
      if ← accept (.symbol ",") then return .inl list
      else if ← isNext (.symbol ")") then return .inl list
      else mismatch) (emptyArgumentList takesGenerator)

/-- One index of a subscript: a slice or an expression. -/
def sliceOrExpression (rules : Rules) : Reader Operand := do
  let start ← line
  let bound : Reader (Option Operand) := do
    match ← lexeme with
    | .symbol ":" | .symbol "]" | .symbol "," => return none
    | _ => optional rules.expression
  let sliceAfter (lower : Option Operand) : Reader Operand := do
    symbol ":"
    let upper ← bound
    let step ← if ← accept (.symbol ":") then bound else pure none
    return .plain (.slice (lower.map Operand.tree) (upper.map Operand.tree)
      (step.map Operand.tree)) start
  if ← isNext (.symbol ":") then sliceAfter none
  else if ← isNamedAhead then assignmentExpression rules
  else
    let value ← rules.expression
    if ← isNext (.symbol ":") then sliceAfter (some value)
    else
      diagnose (diagnoseEquals rules value)
      if ← isNext (.symbol ":=") then mismatch else return value

def subscriptItem (rules : Rules) : Reader Operand := do
  if ← isNext (.symbol "*") then starredBy rules.expression else sliceOrExpression rules

/-- The index of a subscript: one item, or a tuple of several or of a starred one. -/
def subscriptIndex (rules : Rules) : Reader Operand := do
  let first ← subscriptItem rules
  let (others, isTuple) ← furtherItems (subscriptItem rules)
  if others.isEmpty && !isTuple && !isStarred first then return first
  else return tupleOf first.line (first :: others)

/-- What may follow a primary: an attribute, a call or a subscript. -/
def primaryStep (rules : Rules) (value : Operand) :
    Reader (Operand ⊕ Operand) := do
  match ← lexeme with
  | .symbol "." =>
    match ← optional (advance >>= fun _ => name) with
    | some member =>
      let tree := Expr.attribute value.tree member
      return .inl { tree, line := value.line, shape := .single }
    | none => return .inr value
  | .symbol "(" =>
    match ← optional (advance >>= fun _ => arguments rules true) with
    | some (positional, keywords) =>
      let tree := Expr.call value.tree (positional.map Operand.tree) keywords
      return .inl (.plain tree value.line)
    | none => return .inr value
  | .symbol "[" =>
    let index ← optional (do
      advance
      let index ← subscriptIndex rules
      symbol "]"
      return index)
    match index with
    | some index =>
      let tree := Expr.subscript value.tree index.tree
      return .inl { tree, line := value.line, shape := .single }
    | none => return .inr value
  | _ => return .inr value

end ApiDocs.Source
