import ApiDocs.Number.Double

/-!
Syntax trees: expressions in full, statements as far as they declare something.
-/

namespace ApiDocs.Source

/-- A constant.  The code points of a text may include surrogates; `marked` texts have the prefix
`u`. -/
inductive Literal where
  | absent
  | truth (value : Bool)
  | ellipsis
  | integer (value : Nat)
  | real (value : Double)
  | imaginary (value : Double)
  | text (codePoints : List Nat) (marked : Bool)
  | bytes (value : List UInt8)
deriving DecidableEq, Repr

inductive UnaryOperator where
  | complement
  | logicalNot
  | plus
  | minus
deriving DecidableEq, Repr

inductive BinaryOperator where
  | add
  | subtract
  | multiply
  | matrixMultiply
  | divide
  | remainder
  | shiftLeft
  | shiftRight
  | bitOr
  | bitXor
  | bitAnd
  | floorDivide
  | power
deriving DecidableEq, Repr

inductive LogicalOperator where
  | conjunction
  | disjunction
deriving DecidableEq, Repr

inductive Relation where
  | equal
  | unequal
  | less
  | lessOrEqual
  | greater
  | greaterOrEqual
  | same
  | notSame
  | memberOf
  | notMemberOf
deriving DecidableEq, Repr

/-- What the elements of a comprehension are gathered into. -/
inductive Gathering where
  | list
  | set
  | generator
deriving DecidableEq, Repr

/-- How a parameter takes arguments: by position only, by position or name, the remaining ones by
position, by name only, the remaining ones by name. -/
inductive ParameterRole where
  | positional
  | ordinary
  | remainder
  | named
  | remainderByName
deriving DecidableEq, Repr

mutual

/-- Expressions.  A dictionary item without a key unpacks its value, and so does a keyword
argument without a name. -/
inductive Expr where
  | name (identifier : String)
  | constant (literal : Literal)
  | unary (operator : UnaryOperator) (operand : Expr)
  | binary (operator : BinaryOperator) (left right : Expr)
  | logical (operator : LogicalOperator) (operands : List Expr)
  | comparison (first : Expr) (relations : List Relation) (others : List Expr)
  | conditional (test body otherwise : Expr)
  | lambda (parameters : List Parameter) (body : Expr)
  | named (target value : Expr)
  | attribute (value : Expr) (member : String)
  | subscript (value index : Expr)
  | slice (lower upper step : Option Expr)
  | call (callee : Expr) (arguments : List Expr) (keywords : List Argument)
  | starred (value : Expr)
  | tuple (items : List Expr)
  | list (items : List Expr)
  | set (items : List Expr)
  | dictionary (items : List Item)
  | comprehension (gathering : Gathering) (element : Expr) (clauses : List Clause)
  | dictionaryComprehension (key value : Expr) (clauses : List Clause)
  | await (value : Expr)
  | yield (value : Option Expr)
  | yieldFrom (value : Expr)
  | formatted (pieces : List Piece)

/-- A keyword argument. -/
inductive Argument where
  | mk (name : Option String) (value : Expr)

/-- An item of a dictionary. -/
inductive Item where
  | mk (key : Option Expr) (value : Expr)

/-- A clause of a comprehension, with its conditions. -/
inductive Clause where
  | mk (isAsync : Bool) (target source : Expr) (conditions : List Expr)

/-- A parameter with its type and default. -/
inductive Parameter where
  | mk (role : ParameterRole) (name : String) (type fallback : Option Expr)

/-- A piece of a formatted text: characters, or the text of a value with an optional conversion
and format. -/
inductive Piece where
  | text (codePoints : List Nat)
  | field (value : Expr) (conversion : Option Char) (format : Option (List Piece))

end

/-- A function definition; of its body the documentation is kept. -/
structure FunctionDefinition where
  isAsync : Bool
  name : String
  parameters : List Parameter
  result : Option Expr
  decorators : List Expr
  comment : String
  line : Nat

/-- What a body declares.  Statements inside other statements declare nothing. -/
inductive Statement where
  | classDefinition (name : String) (bases : List Expr) (comment : String)
      (body : List Statement) (line : Nat)
  | function (definition : FunctionDefinition)
  | assignment (targets : List Expr) (value : Expr) (line : Nat)
  | typed (target type : Expr) (value : Option Expr) (line : Nat)
  | expression (value : Expr)
  | other

/-- A source file: its documentation and its statements in order. -/
structure SourceFile where
  comment : String
  body : List Statement

end ApiDocs.Source
