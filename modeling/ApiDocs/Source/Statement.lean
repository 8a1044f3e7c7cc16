import ApiDocs.Source.Pattern
import ApiDocs.Text.Lines

/-!
The grammar of statements and of whole files.
-/

namespace ApiDocs.Source

open Reader (mismatch refuse refuseFurthest orElse optional ahead diagnose lexeme line advance accept
  expect require symbol keyword isNext many many1 commaItems strictItems furtherItems iterate)

/-! ## Documentation -/

/-- The documentation of a body: the text that is its first statement, without the indentation
that its lines share. -/
def documentation : List Statement → String
  | .expression (.constant (.text codePoints _)) :: _ =>
    String.ofList (Text.dedent (codePoints.map Text.characterOf))
  | _ => ""

/-! ## Simple statements -/

/-- The value of an assignment. -/
def assignedValue (rules : Rules) : Reader Operand := do
  if ← isNext (.word "yield") then yieldExpression rules else expressionList rules

def augmentedSymbols : List String :=
  ["+=", "-=", "*=", "@=", "/=", "%=", "&=", "|=", "^=", "<<=", ">>=", "**=", "//="]

/-- A chain of targets with equals signs, and the value at its end. -/
def assignmentChain (rules : Rules) (first : Operand) (start : Nat) : Reader Statement :=
  iterate (fun (state : List Operand × Operand) => do
    let (targets, last) := state
    if ← isNext (.symbol "=") then
      if last.shape.isTarget then
        advance
        return .inl (last :: targets, ← assignedValue rules)
      else
        diagnose (match last.shape.faultLine? .assignment with
          | some line => refuse line
          | none => mismatch)
        mismatch
    else
      return .inr (.assignment (targets.reverse.map Operand.tree) last.tree start)) ([], first)

/-- A type after a target, and perhaps a value. -/
def typedAssignment (rules : Rules) (target : Operand) (start : Nat) : Reader Statement := do
  if target.shape.isSingle then
    symbol ":"
    let type ← rules.expression
    let value ← if ← accept (.symbol "=") then some <$> assignedValue rules else pure none
    return .typed target.tree type.tree (value.map Operand.tree) start
  else
    diagnose (do
      symbol ":"
      discard rules.expression
      if isStarred target then mismatch else refuse target.line)
    mismatch

/-- An assignment that combines the value with an operator. -/
def augmentedAssignment (rules : Rules) (target : Operand) : Reader Statement := do
  if target.shape.isSingle then
    advance
    discard (assignedValue rules)
    return .other
  else
    diagnose (do
      advance
      discard (assignedValue rules)
      refuse target.line)
    mismatch

/-- An assignment or an expression. -/
def expressionStatement (rules : Rules) : Reader Statement := do
  let start ← line
  let first ← assignedValue rules
  match ← lexeme with
  | .symbol "=" => assignmentChain rules first start
  | .symbol ":" => typedAssignment rules first start
  | .symbol spelling =>
    if augmentedSymbols.contains spelling then augmentedAssignment rules first
    else return .expression first.tree
  | _ => return .expression first.tree

def dottedName : Reader Unit := do
  discard name
  discard (many (symbol "." >>= fun _ => name))

/-- Another name that something is given. -/
def otherName : Reader Unit := do
  if ← accept (.word "as") then discard name else return ()

def importStatement : Reader Statement := do
  keyword "import"
  discard (strictItems (dottedName >>= fun _ => otherName))
  return .other

def importedName : Reader Unit := do
  discard name
  otherName

/-- What is imported from a module. -/
def importedNames : Reader Unit := do
  match ← lexeme with
  | .symbol "*" => advance
  | .symbol "(" =>
    advance
    discard (commaItems importedName)
    symbol ")"
  | _ =>
    discard (strictItems importedName)
    if ← isNext (.symbol ",") then mismatch else return ()

/-- `from`, with dots for the packages around. -/
def fromStatement : Reader Statement := do
  keyword "from"
  let dots ← many (orElse (symbol ".") (symbol "..."))
  if dots.isEmpty then dottedName else discard (optional dottedName)
  keyword "import"
  importedNames
  return .other

def raiseStatement (rules : Rules) : Reader Statement := do
  keyword "raise"
  match ← optional rules.expression with
  | some _ =>
    if ← accept (.word "from") then
      discard rules.expression
      return .other
    else return .other
  | none => return .other

def assertStatement (rules : Rules) : Reader Statement := do
  keyword "assert"
  discard rules.expression
  if ← accept (.symbol ",") then
    discard rules.expression
    return .other
  else return .other

/-- What is deleted has to be a target throughout. -/
def deleteStatement (rules : Rules) : Reader Statement := do
  keyword "del"
  let targets ← ahead (do
    let targets ← commaItems rules.primary
    if targets.all fun target => target.shape.isDeletable then
      match ← lexeme with
      | .symbol ";" | .newline => return ()
      | _ => mismatch
    else mismatch)
  if targets.isSome then
    discard (commaItems rules.primary)
    return .other
  else
    diagnose (do
      let wrong ← expressionList rules
      match wrong.shape.faultLine? .deletion with
      | some line => refuse line
      | none => mismatch)
    mismatch

def namesStatement : Reader Statement := do
  advance
  discard (strictItems name)
  return .other

def wordStatement : Reader Statement := do
  advance
  return .other

def returnStatement (rules : Rules) : Reader Statement := do
  keyword "return"
  discard (optional (expressionList rules))
  return .other

def simpleStatement (rules : Rules) : Reader Statement := do
  match ← lexeme with
  | .word "return" => returnStatement rules
  | .word "import" => importStatement
  | .word "from" => fromStatement
  | .word "raise" => raiseStatement rules
  | .word "pass" | .word "break" | .word "continue" => wordStatement
  | .word "del" => deleteStatement rules
  | .word "assert" => assertStatement rules
  | .word "global" | .word "nonlocal" => namesStatement
  | _ => expressionStatement rules

/-- Simple statements on one line. -/
def simpleStatements (rules : Rules) : Reader (List Statement) := do
  let first ← simpleStatement rules
  iterate (fun statements => do
    if ← accept (.symbol ";") then
      match ← optional (simpleStatement rules) with
      | some statement => return .inl (statement :: statements)
      | none =>
        expect .newline
        return .inr statements.reverse
    else
      expect .newline
      return .inr statements.reverse) [first]

/-! ## Compound statements -/

/-- What compound statements are made of. -/
structure Parts where
  rules : Rules
  statement : Reader (List Statement)
  pattern : Reader Unit

/-- The statements of a block: on the lines below, further indented, or on the same line. -/
def block (parts : Parts) : Reader (List Statement) := do
  if ← accept .newline then
    if ← accept .indent then
      let statements ← many1 parts.statement
      expect .dedent
      return statements.flatten
    else
      diagnose refuseFurthest
      mismatch
  else simpleStatements parts.rules

/-- A colon and a block. -/
def colonBlock (parts : Parts) : Reader Unit := do
  symbol ":"
  discard (block parts)

def elseBlock (parts : Parts) : Reader Unit := do
  if ← accept (.word "else") then colonBlock parts else return ()

/-- Statements that are chosen by conditions. -/
def ifStatement (parts : Parts) : Reader Unit := do
  keyword "if"
  discard (namedExpression parts.rules)
  colonBlock parts
  discard (many (do
    keyword "elif"
    discard (namedExpression parts.rules)
    colonBlock parts))
  elseBlock parts

def whileStatement (parts : Parts) : Reader Unit := do
  keyword "while"
  discard (namedExpression parts.rules)
  colonBlock parts
  elseBlock parts

def forStatement (parts : Parts) : Reader Unit := do
  discard (loopHead parts.rules)
  discard (expressionList parts.rules)
  colonBlock parts
  elseBlock parts

/-- A context, which may be bound to a target. -/
def withItem (parts : Parts) : Reader Unit := do
  discard parts.rules.expression
  if ← isNext (.word "as") then
    let bound ← optional (do
      advance
      discard (loopTarget parts.rules)
      match ← lexeme with
      | .symbol "," | .symbol ")" | .symbol ":" => return ()
      | _ => mismatch)
    if bound.isNone then
      diagnose (do
        advance
        let target ← parts.rules.expression
        match ← lexeme with
        | .symbol "," | .symbol ")" | .symbol ":" =>
          match target.shape.faultLine? .assignment with
          | some line => refuse line
          | none => mismatch
        | _ => mismatch)
  else return ()

def withStatement (parts : Parts) : Reader Unit := do
  keyword "with"
  let inParentheses : Reader Unit := do
    symbol "("
    discard (commaItems (withItem parts))
    symbol ")"
    discard (symbol ":")
  orElse inParentheses (do
    discard (strictItems (withItem parts))
    symbol ":")
  discard (block parts)

/-- A handler; a star is for groups of errors. -/
def handler (parts : Parts) (isGroup : Bool) : Reader Unit := do
  keyword "except"
  if isGroup then symbol "*"
  if !isGroup && (← isNext (.symbol ":")) then colonBlock parts
  else
    let type ← parts.rules.expression
    if ← isNext (.symbol ",") then
      diagnose (do
        advance
        discard (commaItems parts.rules.expression)
        otherName
        symbol ":"
        refuse type.line)
    otherName
    colonBlock parts

/-- The handlers of a statement are all of one kind; where they are not, the error is reported
behind the statements that follow. -/
def handlers (parts : Parts) : Reader Unit := do
  let isGroup := (← ahead (keyword "except" >>= fun _ => symbol "*")).isSome
  discard (many1 (handler parts isGroup))
  if ← isNext (.word "except") then
    diagnose (do
      handler parts !isGroup
      discard (many (block parts))
      refuseFurthest)

def finallyBlock (parts : Parts) : Reader Bool := do
  if ← accept (.word "finally") then
    colonBlock parts
    return true
  else return false

def tryStatement (parts : Parts) : Reader Unit := do
  keyword "try"
  colonBlock parts
  if ← finallyBlock parts then return ()
  else if ← isNext (.word "except") then
    handlers parts
    elseBlock parts
    discard (finallyBlock parts)
  else
    diagnose refuseFurthest
    mismatch

/-- The value that cases are matched with. -/
def subject (rules : Rules) : Reader Unit := do
  let isStar ← isNext (.symbol "*")
  discard (displayItem rules)
  match ← furtherItems (displayItem rules) with
  | ([], false) => if isStar then mismatch else return ()
  | _ => return ()

def caseBlock (parts : Parts) : Reader Unit := do
  softKeyword "case"
  casePatterns parts.pattern
  if ← accept (.word "if") then discard (namedExpression parts.rules)
  colonBlock parts

/-- `match` begins a statement only where cases follow. -/
def matchStatement (parts : Parts) : Reader Unit := do
  softKeyword "match"
  subject parts.rules
  symbol ":"
  expect .newline
  expect .indent
  discard (many1 (caseBlock parts))
  expect .dedent

/-! ## Definitions -/

/-- A function from its name on. -/
def functionAfter (parts : Parts) (decorators : List Expr) (isAsync : Bool) (line : Nat) :
    Reader Statement := do
  keyword "def"
  let name ← name
  require (.symbol "(")
  let parameters ← parameterList parts.rules true (.symbol ")")
  symbol ")"
  let result ← if ← accept (.symbol "->") then some <$> parts.rules.expression else pure none
  require (.symbol ":")
  let body ← block parts
  return .function
    { isAsync, name, parameters, result := result.map Operand.tree, decorators
      comment := documentation body, line }

/-- A class from its name on: what stands in its parentheses reads as the arguments of a call do,
but holds no bare generator. -/
def classAfter (parts : Parts) (line : Nat) : Reader Statement := do
  keyword "class"
  let name ← name
  let (bases, _) ← if ← accept (.symbol "(") then classBases else pure ([], [])
  symbol ":"
  let body ← block parts
  return .classDefinition name (bases.map Operand.tree) (documentation body) body line
where
  classBases : Reader (List Operand × List Argument) := arguments parts.rules false

def decorator (rules : Rules) : Reader Expr := do
  symbol "@"
  let value ← namedExpression rules
  expect .newline
  return value.tree

/-- A statement that begins with `async`. -/
def asyncStatement (parts : Parts) (decorators : List Expr) : Reader Statement := do
  let line ← line
  keyword "async"
  match ← lexeme with
  | .word "def" => functionAfter parts decorators true line
  | .word "for" => if decorators.isEmpty then forStatement parts *> pure .other else mismatch
  | .word "with" => if decorators.isEmpty then withStatement parts *> pure .other else mismatch
  | _ => mismatch

/-- A definition after its decorators. -/
def decorated (parts : Parts) : Reader Statement := do
  let decorators ← many1 (decorator parts.rules)
  let line ← line
  match ← lexeme with
  | .word "def" => functionAfter parts decorators false line
  | .word "class" => classAfter parts line
  | .word "async" => asyncStatement parts decorators
  | _ => mismatch

/-- A statement; several simple ones may share a line. -/
def statementRule (parts : Parts) : Reader (List Statement) := do
  let line ← line
  let single (reader : Reader Statement) : Reader (List Statement) := do
    return [← reader]
  let compound (reader : Reader Unit) : Reader (List Statement) := do
    reader
    return [.other]
  match ← lexeme with
  | .word "def" => single (functionAfter parts [] false line)
  | .word "class" => single (classAfter parts line)
  | .word "async" => single (asyncStatement parts [])
  | .symbol "@" => single (decorated parts)
  | .word "if" => compound (ifStatement parts)
  | .word "while" => compound (whileStatement parts)
  | .word "for" => compound (forStatement parts)
  | .word "with" => compound (withStatement parts)
  | .word "try" => compound (tryStatement parts)
  | .word "match" => orElse (compound (matchStatement parts)) (simpleStatements parts.rules)
  | _ => simpleStatements parts.rules

/-- Statements that are nested up to a depth. -/
def statementUpTo (rules : Rules) (pattern : Reader Unit) : Nat → Reader (List Statement)
  | 0 => mismatch
  | depth + 1 =>
    statementRule { rules, pattern, statement := statementUpTo rules pattern depth }

/-! ## Files -/

/-- A whole file, of which nothing is nested deeper than a bound. -/
def fileUpTo (names : CharacterNames) (depth : Nat) : Reader SourceFile := do
  let rules := rulesUpTo names depth
  let pattern := patternUpTo rules depth
  let statements ← many (statementUpTo rules pattern (depth + 1))
  expect .final
  return { comment := documentation statements.flatten, body := statements.flatten }

/-- The declarations of a source file, or the line of its first error. -/
def SourceFile.read (names : CharacterNames) (text : List Char) : Except Nat SourceFile :=
  readText (fileUpTo names (text.length + 2)) text 1

end ApiDocs.Source
