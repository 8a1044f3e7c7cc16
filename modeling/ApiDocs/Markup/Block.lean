import ApiDocs.Markup.Code
import ApiDocs.Markup.Inline

/-!
Block markup of comments and readmes: headings, bullet lists, paragraphs and fenced code.

A text is cut into lines, the lines are gathered into blocks, and the blocks are rendered one by
one.
-/

namespace ApiDocs.Markup

open ApiDocs.Text

/-! ## Lines -/

/-- What a trimmed line is, outside of code. -/
inductive LineKind where
  | blank
  | fence (language : List Char)
  | heading (level : Nat) (title : List Char)
  | bullet (item : List Char)
  | plain
deriving DecidableEq, Repr

/-- The characters of a language name after a fence. -/
def isLanguageCharacter (character : Char) : Bool :=
  isWord character || character == '+' || character == '-'

/-- A fence: three backticks and, at most, the name of a language. -/
def fence? : List Char → Option (List Char)
  | '`' :: '`' :: '`' :: rest =>
    let language := (trimStart rest).takeWhile isLanguageCharacter
    let remainder := (trimStart rest).dropWhile isLanguageCharacter
    if remainder.all isBlank then some language else none
  | _ => none

/-- What follows white space, of which there must be some. -/
def afterBlank? : List Char → Option (List Char)
  | head :: rest => if isBlank head then some (trimStart rest) else none
  | [] => none

/-- A heading: one to six number signs, white space and a title. -/
def heading? (line : List Char) : Option (Nat × List Char) :=
  let level := (line.takeWhile (· == '#')).length
  if 1 ≤ level ∧ level ≤ 6 then
    (afterBlank? (line.drop level)).map fun title => (level, title)
  else none

/-- A bullet: a minus sign, an asterisk or a plus sign, white space and an item. -/
def bullet? : List Char → Option (List Char)
  | head :: rest => if head == '-' || head == '*' || head == '+' then afterBlank? rest else none
  | [] => none

/-- The kind of a trimmed line. -/
def LineKind.of (line : List Char) : LineKind :=
  match fence? line with
  | some language => .fence language
  | none =>
    if line.isEmpty then .blank
    else
      match heading? line with
      | some (level, title) => .heading level title
      | none =>
        match bullet? line with
        | some item => .bullet item
        | none => .plain

/-! ## Blocks -/

inductive Block where
  | heading (level : Nat) (title : List Char)
  | list (items : List (List Char))
  | paragraph (lines : List (List Char))
  | code (language : List Char) (lines : List (List Char))
deriving DecidableEq, Repr

/-- The block that further lines may still continue, if any. -/
inductive Pending where
  | nothing
  | list (items : List (List Char))
  | paragraph (lines : List (List Char))
  | code (language : List Char) (lines : List (List Char))
deriving DecidableEq, Repr

/-- The blocks, at most one, that the end of a pending block gives. -/
def Pending.close : Pending → List Block
  | nothing => []
  | list items => [.list items]
  | paragraph lines => [.paragraph lines]
  | code language lines => [.code language lines]

/-- A line that is no bullet continues the last item of a list. -/
def continueItem (line : List Char) : List (List Char) → List (List Char)
  | [] => [line]
  | [item] => [item ++ ' ' :: line]
  | item :: items => item :: continueItem line items

/-- The blocks of a sequence of lines, the first of which may continue a pending block.  Inside
code only a closing fence counts; elsewhere lines are trimmed. -/
def gather : Pending → List (List Char) → List Block
  | pending, [] => pending.close
  | .code language code, line :: rest =>
    if trim line = ['`', '`', '`'] then .code language code :: gather .nothing rest
    else gather (.code language (code ++ [line])) rest
  | .nothing, line :: rest =>
    match LineKind.of (trim line) with
    | .fence language => gather (.code language []) rest
    | .blank => gather .nothing rest
    | .heading level title => .heading level title :: gather .nothing rest
    | .bullet item => gather (.list [item]) rest
    | .plain => gather (.paragraph [trim line]) rest
  | .list items, line :: rest =>
    match LineKind.of (trim line) with
    | .fence language => .list items :: gather (.code language []) rest
    | .blank => .list items :: gather .nothing rest
    | .heading level title => .list items :: .heading level title :: gather .nothing rest
    | .bullet item => gather (.list (items ++ [item])) rest
    | .plain => gather (.list (continueItem (trim line) items)) rest
  | .paragraph lines, line :: rest =>
    match LineKind.of (trim line) with
    | .fence language => .paragraph lines :: gather (.code language []) rest
    | .blank => .paragraph lines :: gather .nothing rest
    | .heading level title => .paragraph lines :: .heading level title :: gather .nothing rest
    | .bullet item => .paragraph lines :: gather (.list [item]) rest
    | .plain => gather (.paragraph (lines ++ [trim line])) rest

/-- The blocks of a comment or document. -/
def blocks (text : List Char) : List Block := gather .nothing (lines text)

/-! ## Rendering -/

/-- A tag around inline markup. -/
def element (name : List Char) (content : List Char) : List Char :=
  '<' :: name ++ '>' :: content ++ '<' :: '/' :: name ++ ['>']

/-- A block as markup.  The offset is added to the levels of headings, which end at six. -/
def Block.render (offset : Int) : Block → List Char
  | heading level title =>
    element ('h' :: (toString (min ((level : Int) + offset) 6)).toList) (renderInline title)
  | list items =>
    element "ul".toList (items.flatMap fun item => element "li".toList (renderInline item))
  | paragraph lines => element "p".toList (renderInline (join [' '] lines))
  | code _ lines => renderCode (join ['\n'] lines)

/-- A comment or document as markup. -/
def renderComment (offset : Int) (text : List Char) : List Char :=
  join ['\n'] ((blocks text).map (Block.render offset))

end ApiDocs.Markup
