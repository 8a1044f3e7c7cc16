import ApiDocs.Source.Printer

/-!
How deeply expressions are nested.
-/

namespace ApiDocs.Source

mutual

/-- The number of levels of an expression. -/
def Expr.levels : Expr → Nat
  | .name _ => 1
  | .constant _ => 1
  | .unary _ operand => operand.levels + 1
  | .binary _ left right => max left.levels right.levels + 1
  | .logical _ operands => levelsOfAll operands + 1
  | .comparison first _ others => max first.levels (levelsOfAll others) + 1
  | .conditional test body otherwise => max test.levels (max body.levels otherwise.levels) + 1
  | .lambda parameters body => max (levelsOfParameters parameters) body.levels + 1
  | .named target value => max target.levels value.levels + 1
  | .attribute value _ => value.levels + 1
  | .subscript value index => max value.levels index.levels + 1
  | .slice lower upper step =>
    max (levelsOfOptional lower) (max (levelsOfOptional upper) (levelsOfOptional step)) + 1
  | .call callee arguments keywords =>
    max callee.levels (max (levelsOfAll arguments) (levelsOfArguments keywords)) + 1
  | .starred value => value.levels + 1
  | .tuple items => levelsOfAll items + 1
  | .list items => levelsOfAll items + 1
  | .set items => levelsOfAll items + 1
  | .dictionary items => levelsOfItems items + 1
  | .comprehension _ element clauses => max element.levels (levelsOfClauses clauses) + 1
  | .dictionaryComprehension key value clauses =>
    max key.levels (max value.levels (levelsOfClauses clauses)) + 1
  | .await value => value.levels + 1
  | .yield value => levelsOfOptional value + 1
  | .yieldFrom value => value.levels + 1
  | .formatted pieces => levelsOfPieces pieces + 1

def levelsOfAll : List Expr → Nat
  | [] => 0
  | item :: items => max item.levels (levelsOfAll items)

def levelsOfOptional : Option Expr → Nat
  | none => 0
  | some value => value.levels

def levelsOfArguments : List Argument → Nat
  | [] => 0
  | .mk _ value :: arguments => max value.levels (levelsOfArguments arguments)

def levelsOfItems : List Item → Nat
  | [] => 0
  | .mk key value :: items =>
    max (levelsOfOptional key) (max value.levels (levelsOfItems items))

def levelsOfClauses : List Clause → Nat
  | [] => 0
  | .mk _ target source conditions :: clauses =>
    max (max target.levels source.levels)
      (max (levelsOfAll conditions) (levelsOfClauses clauses))

def levelsOfParameters : List Parameter → Nat
  | [] => 0
  | .mk _ _ type fallback :: parameters =>
    max (levelsOfOptional type) (max (levelsOfOptional fallback) (levelsOfParameters parameters))

def levelsOfPieces : List Piece → Nat
  | [] => 0
  | .text _ :: pieces => levelsOfPieces pieces
  | .field value _ format :: pieces =>
    max value.levels (max (levelsOfFormat format) (levelsOfPieces pieces))

def levelsOfFormat : Option (List Piece) → Nat
  | none => 0
  | some pieces => levelsOfPieces pieces + 1

end

def Phrase.levels : Phrase → Nat
  | .expression written => written.levels
  | .parameters written => levelsOfParameters written + 1

def FunctionDefinition.levels (definition : FunctionDefinition) : Nat :=
  max (levelsOfParameters definition.parameters)
    (max (levelsOfOptional definition.result) (levelsOfAll definition.decorators))

mutual

def Statement.levels : Statement → Nat
  | .classDefinition _ bases _ body _ => max (levelsOfAll bases) (levelsOfBody body)
  | .function definition => definition.levels
  | .assignment targets value _ => max (levelsOfAll targets) value.levels
  | .typed target type value _ => max target.levels (max type.levels (levelsOfOptional value))
  | .expression value => value.levels
  | .other => 0

def levelsOfBody : List Statement → Nat
  | [] => 0
  | statement :: statements => max statement.levels (levelsOfBody statements)

end

end ApiDocs.Source
