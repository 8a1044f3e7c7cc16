import ApiDocs.Failure
import ApiDocs.Files.Environment
import ApiDocs.Model.Declaration
import ApiDocs.Text.Character

/-!
The declarations of one source file: its module with the classes, functions and variables that it
documents, in the order of the source.
-/

namespace ApiDocs.Convert

open ApiDocs.Source (Expr FunctionDefinition Phrase PrintFault SourceFile Statement)

/-- The sort of statement that a declaration comes from. -/
inductive Origin where
  | file
  | classDefinition
  | function
  | asyncFunction
  | assignment
  | typedAssignment
deriving DecidableEq, Repr

/-- A declaration with its members, or a failure that ends the reading of the file there. -/
inductive Entry where
  | declared (declaration : Declaration) (origin : Origin) (members : List Entry)
  | failed (failure : Failure)

/-- What the outline of a file depends on beside its source. -/
structure View where
  /-- The file, relative to the input it belongs to. -/
  file : String
  excludesPrivate : Bool
  hidesSources : Bool
  platform : Platform

namespace View

/-- Names that begin with an underscore are private, except that of the initialiser. -/
def shows (view : View) (name : String) : Bool :=
  !view.excludesPrivate || name == "__init__" || !(name.startsWith "_")

def place (view : View) (line : Nat) : Option SourcePlace :=
  if view.hidesSources then none else some { file := view.file, line }

end View

/-! ## Texts of expressions -/

/-- The text of a phrase in the signature of a declaration, if the machine can write it. -/
def View.write (view : View) (kind : Kind) (phrase : Phrase) : Except PrintFault (List Char) :=
  match view.platform.writingExhausts? kind phrase with
  | some exhaustion => .error (.exhausted exhaustion)
  | none => phrase.text

/-- The texts of expressions. -/
def View.writeAll (view : View) (kind : Kind) (expressions : List Expr) :
    Except PrintFault (List (List Char)) :=
  expressions.mapM fun expression => view.write kind (.expression expression)

/-- A declaration, or the failure to write its signature. -/
def entryOf (origin : Origin) (declaration : Except PrintFault Declaration)
    (members : List Entry) : Entry :=
  match declaration with
  | .ok declaration => .declared declaration origin members
  | .error fault => .failed (.unprintable fault)

/-! ## Functions -/

/-- Decorators that are noted on a function. -/
def notedDecorators : List String := ["classmethod", "staticmethod", "property", "abstractmethod"]

/-- The part of a decorator after its last dot. -/
def lastPart (decorator : List Char) : String :=
  String.ofList (decorator.reverse.takeWhile (· ≠ '.')).reverse

def functionFlags (definition : FunctionDefinition) (decorators : List (List Char)) :
    List String :=
  flagsOfList ((if definition.isAsync then ["async"] else []) ++
    (decorators.map lastPart).filter notedDecorators.contains)

/-- The parameters and the result of a function. -/
def functionSignature (view : View) (kind : Kind) (definition : FunctionDefinition) :
    Except PrintFault (List Char) := do
  let parameters ← view.write kind (.parameters definition.parameters)
  let signature := Source.between '(' parameters ')'
  match definition.result with
  | none => return signature
  | some result => return signature ++ " -> ".toList ++ (← view.write kind (.expression result))

/-- A function or method.  A method that is marked as a property is one. -/
def functionDeclaration (view : View) (kind : Kind) (definition : FunctionDefinition) :
    Except PrintFault Declaration := do
  let flags := functionFlags definition (← view.writeAll kind definition.decorators)
  let signature ← functionSignature view kind definition
  return {
    name := definition.name
    kind := if kind = .method ∧ "property" ∈ flags then .property else kind
    comment := definition.comment
    signature := String.ofList signature
    source := view.place definition.line
    flags }

def functionEntries (view : View) (kind : Kind) (definition : FunctionDefinition) : List Entry :=
  if view.shows definition.name then
    [entryOf (if definition.isAsync then .asyncFunction else .function)
      (functionDeclaration view kind definition) []]
  else []

/-! ## Variables -/

/-- One declaration for each name, all with the same signature. -/
def variableEntries (view : View) (kind : Kind) (origin : Origin) (names : List String)
    (signature : Except PrintFault (List Char)) (line : Nat) : List Entry :=
  match signature with
  | .error fault => [.failed (.unprintable fault)]
  | .ok signature =>
    (names.filter view.shows).map fun name =>
      .declared
        { name, kind, comment := "", signature := String.ofList signature,
          source := view.place line, flags := [] }
        origin []

/-- A variable with its type and perhaps its value. -/
def typedSignature (view : View) (kind : Kind) (type : Expr) (value : Option Expr) :
    Except PrintFault (List Char) := do
  let type ← view.write kind (.expression type)
  match value with
  | none => return ':' :: ' ' :: type
  | some value =>
    return ':' :: ' ' :: type ++ " = ".toList ++ (← view.write kind (.expression value))

def typedEntries (view : View) (kind : Kind) (target type : Expr) (value : Option Expr)
    (line : Nat) : List Entry :=
  match target with
  | .name name =>
    variableEntries view kind .typedAssignment [name] (typedSignature view kind type value) line
  | _ => []

/-- The targets that are names in upper case: constants. -/
def constantNames (targets : List Expr) : List String :=
  targets.filterMap fun target =>
    match target with
    | .name name => if Text.isUpperCase name.toList then some name else none
    | _ => none

/-- A variable with its value alone. -/
def assignedSignature (view : View) (kind : Kind) (value : Expr) :
    Except PrintFault (List Char) := do
  return " = ".toList ++ (← view.write kind (.expression value))

def assignmentEntries (view : View) (targets : List Expr) (value : Expr) (line : Nat) :
    List Entry :=
  variableEntries view .variableBinding .assignment (constantNames targets)
    (assignedSignature view .variableBinding value) line

/-! ## Classes and modules -/

/-- Methods and typed attributes of a class. -/
def memberEntries (view : View) : Statement → List Entry
  | .function definition => functionEntries view .method definition
  | .typed target type value line => typedEntries view .property target type value line
  | _ => []

/-- The bases of a class between parentheses; nothing for a class without bases. -/
def basesText (view : View) (bases : List Expr) : Except PrintFault (List Char) := do
  match ← view.writeAll .classDefinition bases with
  | [] => return []
  | bases => return Source.between '(' (Source.commas bases) ')'

def classEntries (view : View) (name : String) (bases : List Expr) (comment : String)
    (body : List Statement) (line : Nat) : List Entry :=
  let declaration := do
    let signature ← basesText view bases
    return Declaration.mk name .classDefinition comment (String.ofList signature)
      (view.place line) []
  if view.shows name then
    [entryOf .classDefinition declaration (body.flatMap (memberEntries view))]
  else []

/-- What a statement of a module declares. -/
def statementEntries (view : View) : Statement → List Entry
  | .classDefinition name bases comment body line => classEntries view name bases comment body line
  | .function definition => functionEntries view .function definition
  | .assignment targets value line => assignmentEntries view targets value line
  | .typed target type value line => typedEntries view .variableBinding target type value line
  | _ => []

/-- The module of a source file. -/
def moduleEntry (view : View) (name : String) (source : SourceFile) : Entry :=
  .declared
    { name, kind := .moduleFile, comment := source.comment, signature := "",
      source := view.place 1, flags := [] }
    .file (source.body.flatMap (statementEntries view))

/-- The dotted name of the module in a file.  The file that initialises a package stands for the
package. -/
def moduleName (file : Path) : String :=
  let parts := file.parts.dropLast ++ [file.stem]
  ".".intercalate (if file.stem = "__init__" ∧ 1 < parts.length then parts.dropLast else parts)

end ApiDocs.Convert
