import ApiDocs.Source.Expression

/-!
The levels of operators, from primaries up to whole expressions, and the rules that they make
together.
-/

namespace ApiDocs.Source

open Reader (mismatch refuse orElse optional ahead diagnose plainly lexeme line advance accept
  expect symbol keyword isNext many many1 iterate)

/-- A name, constant or bracketed expression with attributes, calls and subscripts. -/
def primary (rules : Rules) : Reader Operand := do
  let value ← atom rules
  iterate (primaryStep rules) value

def awaited (rules : Rules) : Reader Operand := do
  let line ← line
  if ← accept (.word "await") then
    let value ← primary rules
    return .plain (.await value.tree) line
  else primary rules

/-- A power binds its exponent to the right. -/
def power (rules : Rules) : Reader Operand := do
  let base ← awaited rules
  if ← accept (.symbol "**") then
    let exponent ← rules.factor
    return .plain (.binary .power base.tree exponent.tree) base.line
  else return base

def signs : List (String × UnaryOperator) := [("+", .plus), ("-", .minus), ("~", .complement)]

def factor (rules : Rules) : Reader Operand := do
  let line ← line
  match ← lexeme with
  | .symbol spelling =>
    match signs.lookup spelling with
    | some operator =>
      advance
      let operand ← rules.factor
      return .plain (.unary operator operand.tree) line
    | none => power rules
  | _ => power rules

/-- Operands of a level joined by its operators, to the left. -/
def leftChain (operators : List (String × BinaryOperator)) (operand : Reader Operand) :
    Reader Operand := do
  let first ← operand
  iterate (fun (left : Operand) => do
    match ← lexeme with
    | .symbol spelling =>
      match operators.lookup spelling with
      | some operator =>
        match ← optional (advance >>= fun _ => operand) with
        | some right =>
          return .inl (.plain (.binary operator left.tree right.tree) left.line)
        | none => return .inr left
      | none => return .inr left
    | _ => return .inr left) first

def term (rules : Rules) : Reader Operand :=
  leftChain [("*", .multiply), ("/", .divide), ("//", .floorDivide), ("%", .remainder),
    ("@", .matrixMultiply)] (factor rules)

def sum (rules : Rules) : Reader Operand :=
  leftChain [("+", .add), ("-", .subtract)] (term rules)

def shift (rules : Rules) : Reader Operand :=
  leftChain [("<<", .shiftLeft), (">>", .shiftRight)] (sum rules)

def bitwiseAnd (rules : Rules) : Reader Operand := leftChain [("&", .bitAnd)] (shift rules)

def bitwiseXor (rules : Rules) : Reader Operand := leftChain [("^", .bitXor)] (bitwiseAnd rules)

def bitwiseOr (rules : Rules) : Reader Operand := leftChain [("|", .bitOr)] (bitwiseXor rules)

def relationSymbols : List (String × Relation) :=
  [("==", .equal), ("!=", .unequal), ("<", .less), ("<=", .lessOrEqual), (">", .greater),
    (">=", .greaterOrEqual)]

/-- An operator that compares. -/
def relation : Reader Relation := do
  match ← lexeme with
  | .symbol spelling =>
    match relationSymbols.lookup spelling with
    | some relation =>
      advance
      return relation
    | none => mismatch
  | .word "in" =>
    advance
    return .memberOf
  | .word "not" =>
    advance
    keyword "in"
    return .notMemberOf
  | .word "is" =>
    advance
    if ← accept (.word "not") then return .notSame else return .same
  | _ => mismatch

/-- Comparisons are chained, not joined to the left. -/
def comparison (rules : Rules) : Reader Operand := do
  let first ← bitwiseOr rules
  let others ← many (do
    let relation ← relation
    let operand ← bitwiseOr rules
    return (relation, operand))
  match others with
  | [] => return first
  | (relation, _) :: _ =>
    let tree := Expr.comparison first.tree (others.map Prod.fst)
      (others.map fun other => other.2.tree)
    let shape := Shape.comparison first.line (relation = .memberOf) first.shape
    return { tree, line := first.line, shape }

def inversion (rules : Rules) : Reader Operand := do
  let line ← line
  if ← accept (.word "not") then
    let operand ← rules.inversion
    return .plain (.unary .logicalNot operand.tree) line
  else comparison rules

/-- Operands joined by a logical operator make one expression. -/
def logicalChain (word : String) (operator : LogicalOperator) (operand : Reader Operand) :
    Reader Operand := do
  let first ← operand
  match ← many (keyword word >>= fun _ => operand) with
  | [] => return first
  | others =>
    return .plain (.logical operator ((first :: others).map Operand.tree)) first.line

def conjunction (rules : Rules) : Reader Operand :=
  logicalChain "and" .conjunction (inversion rules)

def disjunction (rules : Rules) : Reader Operand :=
  logicalChain "or" .disjunction (conjunction rules)

/-- A condition after the value that it chooses. -/
def conditionalAfter (rules : Rules) (body : Operand) : Reader Operand := do
  keyword "if"
  let test ← rules.disjunction
  keyword "else"
  let otherwise ← rules.expression
  return .plain (.conditional test.tree body.tree otherwise.tree) body.line

/-- The level of conditions and functions, without its mistakes. -/
def plainExpression (rules : Rules) : Reader Operand := do
  if ← isNext (.word "lambda") then lambdaExpression rules
  else
    let body ← disjunction rules
    match ← optional (conditionalAfter rules body) with
    | some conditional => return conditional
    | none => return body

/-- Whether a text literal after a name, or a word that is a keyword in some places, begins
here. -/
def beginsSpecially : Reader Bool := do
  match ← lexeme with
  | .word spelling =>
    if softKeywords.contains spelling then return true
    else
      return (← ahead (do
        discard name
        discard textLexeme)).isSome
  | _ => return false

/-- Two expressions side by side inside brackets: a comma is missing. -/
def diagnoseMissingComma (rules : Rules) (first : Operand) : Reader Unit := do
  discard (plainly (plainExpression rules))
  match ← Reader.previous? with
  | some token => if token.depth = 0 then mismatch else refuse first.line
  | none => mismatch

/-- A condition without its alternative. -/
def diagnoseMissingElse (rules : Rules) (first : Operand) : Reader Unit := do
  keyword "if"
  discard rules.disjunction
  match ← lexeme with
  | .word "else" | .symbol ":" => mismatch
  | _ => refuse first.line

/-- An expression.  Mistakes after its first operand are recognised. -/
def expression (rules : Rules) : Reader Operand := do
  if ← isNext (.word "lambda") then lambdaExpression rules
  else
    let isSpecial ← beginsSpecially
    let body ← disjunction rules
    if !isSpecial then diagnose (diagnoseMissingComma rules body)
    diagnose (diagnoseMissingElse rules body)
    match ← optional (conditionalAfter rules body) with
    | some conditional => return conditional
    | none => return body

/-! ## All rules together -/

/-- Rules that match nothing. -/
def noRules (names : CharacterNames) : Rules :=
  { expression := mismatch
    disjunction := mismatch
    inversion := mismatch
    bitwiseOr := mismatch
    primary := mismatch
    factor := mismatch
    names
    field := fun line _ => .error line }

/-- Rules for expressions that are nested up to a depth.  The expression of a replacement field is
read as if it stood in parentheses. -/
def rulesUpTo (names : CharacterNames) : Nat → Rules
  | 0 => noRules names
  | depth + 1 =>
    let rules := rulesUpTo names depth
    { expression := expression rules
      disjunction := disjunction rules
      inversion := inversion rules
      bitwiseOr := bitwiseOr rules
      primary := primary rules
      factor := factor rules
      names
      field := fun line text =>
        (readText (expressionList rules) ('(' :: text ++ [')']) line).map Operand.tree }

end ApiDocs.Source
