/-!
Tokens of source text, with the lines they stand on.
-/

namespace ApiDocs.Source

/-- What a token is.  Words are identifiers and keywords alike; a text literal is kept as its
prefix letters and the characters between its quotes. -/
inductive Lexeme where
  | word (spelling : String)
  | number (spelling : List Char)
  | text (marks body : List Char)
  | symbol (spelling : String)
  | newline
  | indent
  | dedent
  | final
deriving DecidableEq, Repr

/-- A token with the line it begins on and the number of brackets open after it. -/
structure Token where
  lexeme : Lexeme
  line : Nat
  depth : Nat
deriving DecidableEq, Repr

/-- Why the tokens of a text end early.  A decisive fault lies in the characters alone and is
reported even when another error comes before it. -/
structure Fault where
  line : Nat
  decisive : Bool
  /-- The line of the innermost bracket that is open at the fault. -/
  openBracket : Option Nat
deriving DecidableEq, Repr

/-- The tokens of a text, and the fault that ends them early. -/
structure Scan where
  tokens : Array Token
  fault : Option Fault

/-- Words that are no identifiers. -/
def keywords : List String :=
  ["False", "None", "True", "and", "as", "assert", "async", "await", "break", "class", "continue",
    "def", "del", "elif", "else", "except", "finally", "for", "from", "global", "if", "import",
    "in", "is", "lambda", "nonlocal", "not", "or", "pass", "raise", "return", "try", "while",
    "with", "yield"]

/-- Identifiers that begin a statement or a pattern in some places. -/
def softKeywords : List String := ["_", "case", "match"]

end ApiDocs.Source
