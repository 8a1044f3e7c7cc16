import ApiDocs.Source.Operator

/-!
The grammar of patterns.  Patterns declare nothing, so they are only recognised.
-/

namespace ApiDocs.Source

open Reader (mismatch refuse orElse optional lexeme line advance accept symbol keyword isNext many
  commaItems strictItems)

/-- A number, which may have to be of one sort. -/
def patternNumber (isAllowed : Literal → Bool) : Reader Unit := do
  match ← lexeme with
  | .number spelling =>
    let operand ← number spelling
    match operand.tree with
    | .constant literal => if isAllowed literal then return () else refuse operand.line
    | _ => mismatch
  | _ => mismatch

def isImaginary : Literal → Bool
  | .imaginary _ => true
  | _ => false

/-- A number with a sign, which may be a complex one. -/
def signedNumber : Reader Unit := do
  discard (accept (.symbol "-"))
  let start ← line
  match ← lexeme with
  | .number spelling =>
    let isReal := !((numberOf? spelling).any isImaginary)
    patternNumber fun _ => true
    let isComplex ← if ← accept (.symbol "+") then pure true else accept (.symbol "-")
    if isComplex then
      if isReal then patternNumber isImaginary else refuse start
    else return ()
  | _ => mismatch

/-- A constant in a pattern. -/
def literalPattern (rules : Rules) : Reader Unit := do
  match ← lexeme with
  | .word "None" | .word "True" | .word "False" => advance
  | .text _ _ => discard (texts rules)
  | _ => signedNumber

/-- A dotted name with the number of its parts. -/
def dottedPattern : Reader Nat := do
  discard name
  let others ← many (symbol "." >>= fun _ => name)
  return others.length + 1

/-- A name that is bound. -/
def captureName : Reader Unit := do
  let bound ← name
  if bound = "_" then mismatch
  match ← lexeme with
  | .symbol "." | .symbol "(" | .symbol "=" => mismatch
  | _ => return ()

/-- A starred name in a sequence. -/
def starPattern : Reader Unit := do
  symbol "*"
  discard name
  match ← lexeme with
  | .symbol "." | .symbol "(" | .symbol "=" => mismatch
  | _ => return ()

def sequenceItem (pattern : Reader Unit) : Reader Unit := orElse starPattern pattern

/-- Square brackets hold a sequence. -/
def bracketPattern (pattern : Reader Unit) : Reader Unit := do
  symbol "["
  if ← accept (.symbol "]") then return ()
  else
    discard (commaItems (sequenceItem pattern))
    symbol "]"

/-- Parentheses hold a sequence, or one pattern that is not starred. -/
def parenthesisPattern (pattern : Reader Unit) : Reader Unit := do
  symbol "("
  if ← accept (.symbol ")") then return ()
  else
    let isStar ← isNext (.symbol "*")
    sequenceItem pattern
    if ← accept (.symbol ",") then
      discard (optional (commaItems (sequenceItem pattern)))
      symbol ")"
    else if isStar then mismatch
    else symbol ")"

/-- A key of a mapping with its pattern. -/
def keyPattern (rules : Rules) (pattern : Reader Unit) : Reader Unit := do
  orElse (literalPattern rules) (do
    let parts ← dottedPattern
    if parts < 2 then mismatch else return ())
  symbol ":"
  pattern

/-- A mapping; the rest may be bound at its end. -/
def mappingPattern (rules : Rules) (pattern : Reader Unit) : Reader Unit := do
  symbol "\x7b"
  discard (optional (strictItems (keyPattern rules pattern) >>= fun _ => accept (.symbol ",")))
  if ← accept (.symbol "**") then
    captureName
    discard (accept (.symbol ","))
  symbol "\x7d"

/-- The arguments of a class: positional ones before named ones. -/
def classArguments (pattern : Reader Unit) : Reader Unit :=
  Reader.iterate (fun (isNamed : Bool) => do
    if ← accept (.symbol ")") then return .inr ()
    else
      let named ← optional argumentName
      if named.isNone && isNamed then mismatch
      pattern
      if ← accept (.symbol ",") then return .inl (named.isSome || isNamed)
      else
        symbol ")"
        return .inr ()) false

/-- A class, a dotted constant or a name that is bound. -/
def namePattern (pattern : Reader Unit) : Reader Unit := do
  let parts ← dottedPattern
  match ← lexeme with
  | .symbol "(" =>
    advance
    classArguments pattern
  | .symbol "." | .symbol "=" => mismatch
  | _ => if parts = 0 then mismatch else return ()

def closedPattern (rules : Rules) (pattern : Reader Unit) : Reader Unit := do
  match ← lexeme with
  | .symbol "(" => parenthesisPattern pattern
  | .symbol "[" => bracketPattern pattern
  | .symbol "\x7b" => mappingPattern rules pattern
  | .word "None" | .word "True" | .word "False" => advance
  | .word _ => namePattern pattern
  | _ => literalPattern rules

/-- Alternatives, which may be bound to a name together. -/
def patternRule (rules : Rules) (pattern : Reader Unit) : Reader Unit := do
  closedPattern rules pattern
  discard (many (symbol "|" >>= fun _ => closedPattern rules pattern))
  if ← accept (.word "as") then captureName else return ()

/-- Patterns that are nested up to a depth. -/
def patternUpTo (rules : Rules) : Nat → Reader Unit
  | 0 => mismatch
  | depth + 1 => patternRule rules (patternUpTo rules depth)

/-- The patterns of a case: one pattern, or a sequence without brackets. -/
def casePatterns (pattern : Reader Unit) : Reader Unit := do
  let isStar ← isNext (.symbol "*")
  sequenceItem pattern
  if ← accept (.symbol ",") then discard (optional (commaItems (sequenceItem pattern)))
  else if isStar then mismatch
  else return ()

end ApiDocs.Source
