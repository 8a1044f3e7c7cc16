import ApiDocs.Yaml.Property
import ApiDocs.Yaml.Scalar

/-!
Tokens of a document.  A mapping key is recognised by the colon after it, so the place where a key
may begin is remembered, and its token is inserted there when the colon is met.
-/

namespace ApiDocs.Yaml

/-! ## Positions -/

structure Position where
  index : Nat
  line : Nat
  column : Nat
deriving DecidableEq, Repr

/-- The position after some characters.  A byte order mark takes no column. -/
def Position.after (position : Position) : List Char → Position
  | [] => position
  | next :: rest =>
    let index := position.index + 1
    let moved : Position :=
      if isBreak next && !isDoubleBreak (next :: rest) then
        { index, line := position.line + 1, column := 0 }
      else if next == '\uFEFF' then { position with index }
      else { position with index, column := position.column + 1 }
    moved.after rest

/-! ## The state of reading -/

/-- A place where a key may begin: how many tokens stand before it.  Where a block mapping must go
on, the key is required. -/
structure PossibleKey where
  tokenNumber : Nat
  isRequired : Bool
  position : Position

/-- The rest of the text and its position, the tokens so far, how many flow collections are open,
the columns of the open blocks (the innermost first), whether a key may begin here, and for each
level of flow collections the place where a key may have begun. -/
structure Lexer where
  rest : List Char
  position : Position
  tokens : Array Token
  flowLevel : Nat
  indents : List Int
  allowsKey : Bool
  keys : List (Nat × PossibleKey)

namespace Lexer

def initial (text : List Char) : Lexer :=
  { rest := text
    position := { index := 0, line := 0, column := 0 }
    tokens := #[]
    flowLevel := 0
    indents := []
    allowsKey := true
    keys := [] }

/-- The column of the innermost block; outside of all blocks it is left of every column. -/
def indent (lexer : Lexer) : Int := lexer.indents.headD (-1)

def inFlow (lexer : Lexer) : Bool := lexer.flowLevel ≠ 0

def emit (lexer : Lexer) (token : Token) : Lexer :=
  { lexer with tokens := lexer.tokens.push token }

/-- Goes on to the given rest of the text. -/
def goTo (lexer : Lexer) (rest : List Char) : Lexer :=
  let passed := lexer.rest.take (lexer.rest.length - rest.length)
  { lexer with rest, position := lexer.position.after passed }

def pass (lexer : Lexer) (count : Nat) : Lexer := lexer.goTo (lexer.rest.drop count)

/-- Passes spaces, comments and line ends.  After a line end outside of flow collections a key may
begin. -/
def skipSpace : Nat → Lexer → Lexer
  | 0, lexer => lexer
  | bound + 1, lexer =>
    let rest := lexer.rest.dropWhile (· == ' ')
    let rest := if rest.head? == some '#' then rest.dropWhile fun next => !isBreak next else rest
    match lineBreak? rest with
    | none => lexer.goTo rest
    | some (_, rest) =>
      let moved := lexer.goTo rest
      skipSpace bound { moved with allowsKey := moved.allowsKey || !moved.inFlow }

/-! ## Keys -/

/-- The greatest distance between the beginning of a key and its colon. -/
def longestKey : Nat := 1024

/-- Forgets keys that can no longer be ones, since a key stands on one line and is not too long; a
required one must not be lost. -/
def dropStaleKeys? (lexer : Lexer) : Option Lexer :=
  let isStale (key : PossibleKey) : Bool :=
    key.position.line ≠ lexer.position.line ||
      decide (longestKey < lexer.position.index - key.position.index)
  if lexer.keys.any fun (_, key) => isStale key && key.isRequired then none
  else some { lexer with keys := lexer.keys.filter fun (_, key) => !isStale key }

/-- Forgets the possible key at this level. -/
def dropKey? (lexer : Lexer) : Option Lexer :=
  match lexer.keys.lookup lexer.flowLevel with
  | none => some lexer
  | some key =>
    if key.isRequired then none
    else some { lexer with keys := lexer.keys.filter fun (level, _) => level ≠ lexer.flowLevel }

/-- Remembers that a key may begin here. -/
def markKey? (lexer : Lexer) : Option Lexer :=
  if lexer.allowsKey then do
    let lexer ← lexer.dropKey?
    let key : PossibleKey :=
      { tokenNumber := lexer.tokens.size
        isRequired := !lexer.inFlow && lexer.indent = lexer.position.column
        position := lexer.position }
    return { lexer with keys := (lexer.flowLevel, key) :: lexer.keys }
  else some lexer

/-! ## Blocks -/

/-- Ends the blocks that are indented further than a column. -/
def endBlocks (column : Int) : List Int → Lexer → Lexer
  | [], lexer => { lexer with indents := [] }
  | indent :: outer, lexer =>
    if column < indent then endBlocks column outer (lexer.emit .blockEnd)
    else { lexer with indents := indent :: outer }

/-- Outside of flow collections, ends the blocks that are indented further than a column. -/
def unwind (lexer : Lexer) (column : Int) : Lexer :=
  if lexer.inFlow then lexer else endBlocks column lexer.indents lexer

/-- Begins a block here, unless the innermost block is at this column already. -/
def beginBlock? (lexer : Lexer) (start : Token) : Option Lexer :=
  if lexer.inFlow then some lexer
  else if !lexer.allowsKey then none
  else if lexer.indent < lexer.position.column then
    let begun := lexer.emit start
    some { begun with indents := (lexer.position.column : Int) :: lexer.indents }
  else some lexer

/-! ## Tokens by their first character -/

/-- A mark that ends all blocks: it is of this length, and no key follows on its line. -/
def outermost? (lexer : Lexer) (token : Token) (rest : List Char) : Option Lexer := do
  let lexer ← (lexer.unwind (-1)).dropKey?
  return { (lexer.goTo rest).emit token with allowsKey := false }

def flowStart? (lexer : Lexer) (token : Token) : Option Lexer := do
  let lexer ← lexer.markKey?
  return { (lexer.pass 1).emit token with flowLevel := lexer.flowLevel + 1, allowsKey := true }

def flowEnd? (lexer : Lexer) (token : Token) : Option Lexer := do
  let lexer ← lexer.dropKey?
  if lexer.flowLevel = 0 then none
  else
    return { (lexer.pass 1).emit token with flowLevel := lexer.flowLevel - 1, allowsKey := false }

def flowEntry? (lexer : Lexer) : Option Lexer := do
  let lexer ← lexer.dropKey?
  return { (lexer.pass 1).emit .flowEntry with allowsKey := true }

def blockEntry? (lexer : Lexer) : Option Lexer := do
  let lexer ← lexer.beginBlock? .blockSequenceStart
  let lexer ← lexer.dropKey?
  return { (lexer.pass 1).emit .blockEntry with allowsKey := true }

/-- A key that is announced by a question mark. -/
def key? (lexer : Lexer) : Option Lexer := do
  let lexer ← lexer.beginBlock? .blockMappingStart
  let lexer ← lexer.dropKey?
  return { (lexer.pass 1).emit .key with allowsKey := !lexer.inFlow }

/-- A colon.  If a key may have begun at this level, it did. -/
def value? (lexer : Lexer) : Option Lexer :=
  match lexer.keys.lookup lexer.flowLevel with
  | some key =>
    let column : Int := key.position.column
    let beginsBlock := !lexer.inFlow && decide (lexer.indent < column)
    let start := if beginsBlock then #[Token.blockMappingStart, .key] else #[Token.key]
    let before := lexer.tokens.extract 0 key.tokenNumber
    let after := lexer.tokens.extract key.tokenNumber lexer.tokens.size
    let moved := { lexer with tokens := before ++ start ++ after }
    some { (moved.pass 1).emit .value with
      keys := lexer.keys.filter fun (level, _) => level ≠ lexer.flowLevel
      indents := if beginsBlock then column :: lexer.indents else lexer.indents
      allowsKey := false }
  | none => do
    let lexer ← lexer.beginBlock? .blockMappingStart
    return { (lexer.pass 1).emit .value with allowsKey := !lexer.inFlow }

/-- A token that may begin a key, with what follows it. -/
def content? (lexer : Lexer) (token : Token) (rest : List Char) : Option Lexer := do
  let lexer ← lexer.markKey?
  return { (lexer.goTo rest).emit token with allowsKey := false }

def blockScalar? (lexer : Lexer) (isFolded : Bool) : Option Lexer := do
  let (text, rest) ← block? isFolded lexer.indent (lexer.rest.drop 1)
  let lexer ← lexer.dropKey?
  return { (lexer.goTo rest).emit (.scalar text false) with allowsKey := true }

/-- Whether a plain scalar may begin: not with an indicator, but with a hyphen, a question mark or
a colon where no white space follows. -/
def beginsPlain (inFlow : Bool) (next : Char) (rest : List Char) : Bool :=
  !(isSpaceOrTab next || isBreak next ||
      "-?:,[]\x7b\x7d#&*!|>'\"%@\x60".toList.contains next) ||
    (!atBlank rest && (next == '-' || (!inFlow && (next == '?' || next == ':'))))

def plainScalar? (lexer : Lexer) : Option Lexer := do
  let lexer ← lexer.markKey?
  let (text, rest, endsLine) := plain lexer.inFlow (lexer.indent + 1) lexer.rest
  return { (lexer.goTo rest).emit (.scalar text true) with allowsKey := endsLine }

/-- The token that begins with a character. -/
def token? (lexer : Lexer) (next : Char) (rest : List Char) : Option Lexer :=
  let isIndicator : Bool := lexer.inFlow || atBlank rest
  let atMark (mark : String) : Bool :=
    lexer.position.column = 0 && mark.toList.isPrefixOf lexer.rest && atBlank (rest.drop 2)
  if next == '%' && lexer.position.column = 0 then do
    let (token, rest) ← directive? rest
    lexer.outermost? token rest
  else if atMark "---" then lexer.outermost? .documentStart (rest.drop 2)
  else if atMark "..." then lexer.outermost? .documentEnd (rest.drop 2)
  else if next == '[' then lexer.flowStart? .flowSequenceStart
  else if next == '\x7b' then lexer.flowStart? .flowMappingStart
  else if next == ']' then lexer.flowEnd? .flowSequenceEnd
  else if next == '\x7d' then lexer.flowEnd? .flowMappingEnd
  else if next == ',' then lexer.flowEntry?
  else if next == '-' && atBlank rest then lexer.blockEntry?
  else if next == '?' && isIndicator then lexer.key?
  else if next == ':' && isIndicator then lexer.value?
  else if next == '*' then do
    let (name, rest) ← anchorName? rest
    lexer.content? (.reference name) rest
  else if next == '&' then do
    let (name, rest) ← anchorName? rest
    lexer.content? (.anchor name) rest
  else if next == '!' then do
    let (tag, rest) ← tag? lexer.rest
    lexer.content? (.tag tag) rest
  else if (next == '|' || next == '>') && !lexer.inFlow then lexer.blockScalar? (next == '>')
  else if next == '\'' || next == '"' then do
    match quoted (next == '"') rest with
    | .ok (text, rest) => lexer.content? (.scalar text false) rest
    | .error fault => lexer.content? (.unreadable fault) []
  else if beginsPlain lexer.inFlow next rest then lexer.plainScalar?
  else none

/-- The tokens before which no other token can be inserted any more, up to what cannot be read. -/
def stop (lexer : Lexer) (fault : Fault) : List Token :=
  let first? := (lexer.keys.map fun (_, key) => key.tokenNumber).min?
  lexer.tokens.toList.take (first?.getD lexer.tokens.size) ++ [.unreadable fault]

/-- All tokens of the text, or those that are known before something that cannot be read. -/
def run : Nat → Lexer → List Token
  | 0, lexer => lexer.stop .malformed
  | bound + 1, lexer =>
    match (skipSpace (lexer.rest.length + 1) lexer).dropStaleKeys? with
    | none => lexer.stop .malformed
    | some moved =>
      let begun := moved.unwind moved.position.column
      match begun.rest with
      | [] =>
        match (begun.unwind (-1)).dropKey? with
        | none => lexer.stop .malformed
        | some ended => ended.tokens.toList
      | next :: rest =>
        match begun.token? next rest with
        | none => lexer.stop .malformed
        | some read =>
          match read.tokens.back? with
          | some (.unreadable fault) => lexer.stop fault
          | _ => run bound read

end Lexer

/-- The tokens of a text.  A byte order mark at its start says nothing. -/
def tokens (text : List Char) : List Token :=
  if text.all isAllowed then
    let lexer := Lexer.initial text
    let lexer := if text.head? == some '\uFEFF' then lexer.pass 1 else lexer
    lexer.run (text.length + 1)
  else [.unreadable .malformed]

end ApiDocs.Yaml
