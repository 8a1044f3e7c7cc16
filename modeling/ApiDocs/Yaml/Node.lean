import ApiDocs.Yaml.Lexer
import ApiDocs.Yaml.Tag

/-!
Nodes of a document: scalars, sequences and mappings, each with its tag.  A reference stands for
the node that its anchor names, which begins before it.
-/

namespace ApiDocs.Yaml

/-- A node of a document.  Collections are numbered in the order in which they begin, so that a
collection that stands inside of itself can be referred to. -/
inductive Node where
  | scalar (tag : Tag) (text : String)
  | sequence (number : Nat) (tag : Tag) (items : List Node)
  | mapping (number : Nat) (tag : Tag) (pairs : List (Node × Node))
  /-- The collection of this number, from a place inside of it. -/
  | enclosing (number : Nat)

namespace Node

/-! ## Reading tokens -/

/-- What is left to read, the handles of tags, the anchors so far, the collections so far, how many
have begun, and how many more may be open at once.  An anchor whose node is not complete names the
collection of a number. -/
structure Cursor where
  tokens : List Token
  handles : List (String × String)
  anchors : List (String × Node)
  collections : List (Nat × Node)
  begun : Nat
  room : Nat

/-- A reader of tokens that fails where the document is malformed or cannot be read. -/
abbrev Reader := StateT Cursor (Except Fault)

def malformed {α : Type} : Reader α := throw .malformed

/-- The next token; one that cannot be read ends the reading. -/
def next? : Reader (Option Token) := do
  match (← get).tokens.head? with
  | some (.unreadable fault) => throw fault
  | token => return token

def advance : Reader Unit := modify fun cursor => { cursor with tokens := cursor.tokens.drop 1 }

/-- Passes a token that must come next. -/
def expect (token : Token) : Reader Unit := do
  if (← next?) = some token then advance else malformed

/-- Whether the next token is one of a list; at the end of the document it is none. -/
def isNext (tokens : List Token) : Reader Bool := do
  return (← next?).any tokens.contains

def accept (token : Token) : Reader Bool := do
  if (← next?) = some token then
    advance
    return true
  else return false

/-! ## Properties -/

/-- The anchor and the tag of a node, in any order. -/
structure Properties where
  anchor : Option String
  tag : Option String

def anchor? : Reader (Option String) := do
  match ← next? with
  | some (.anchor name) =>
    advance
    return some name
  | _ => return none

/-- The tag that is written next, its handle replaced by what it stands for. -/
def tag? : Reader (Option String) := do
  match ← next? with
  | some (.tag written) =>
    advance
    match written.handle with
    | none => return some written.suffix
    | some handle =>
      match (← get).handles.lookup handle with
      | some start => return some (start ++ written.suffix)
      | none => malformed
  | _ => return none

def properties : Reader Properties := do
  match ← anchor? with
  | some anchor => return { anchor := some anchor, tag := ← tag? }
  | none =>
    let tag ← tag?
    return { anchor := ← if tag.isSome then anchor? else pure none, tag }

/-- Notes that a node with an anchor begins; a name is given only once. -/
def beginAnchor (anchor : Option String) : Reader Unit := do
  match anchor with
  | none => return
  | some name =>
    let cursor ← get
    if (cursor.anchors.lookup name).isSome then malformed
    else set { cursor with anchors := (name, enclosing cursor.begun) :: cursor.anchors }

/-- Notes the node that an anchor names. -/
def endAnchor (anchor : Option String) (node : Node) : Reader Node := do
  if let some name := anchor then
    modify fun cursor => { cursor with anchors := (name, node) :: cursor.anchors }
  return node

/-- The node that an anchor names. -/
def named (name : String) : Reader Node := do
  match (← get).anchors.lookup name with
  | some node => return node
  | none => malformed

/-- Reads a collection, which its number and its parts make. -/
def collection {Part : Type} (make : Nat → Part → Node) (parts : Reader Part) : Reader Node := do
  let cursor ← get
  let number := cursor.begun
  match cursor.room with
  | 0 => throw (.exhausted (.stack ""))
  | room + 1 =>
    set { cursor with begun := number + 1, room }
    let node := make number (← parts)
    modify fun after =>
      { after with collections := (number, node) :: after.collections, room := cursor.room }
    return node

def scalarOf (tag : Option String) (text : String) (isPlain : Bool) : Node :=
  scalar (Tag.ofScalar tag text isPlain) text

/-- What stands where a node is missing. -/
def missing : Node := scalarOf none "" true

/-- The tag of a collection: the one that is written, unless it says nothing. -/
def collectionTag (default : Tag) (written : Option String) : Tag :=
  match written with
  | none => default
  | some tag => if tag = Tag.unspecific then default else Tag.ofString tag

/-! ## Grammar -/

/-- Where a node stands: in a flow collection, in a block, or in a block where the entries of a
sequence may stand without being indented. -/
inductive Place where
  | flow
  | block
  | blockOrEntries
deriving DecidableEq

/-- The tokens that end a value of a block mapping. -/
def blockValueEnds : List Token := [.key, .value, .blockEnd]

mutual

/-- A node. -/
def node (place : Place) : Nat → Reader Node
  | 0 => malformed
  | bound + 1 => do
    if let some (.reference name) ← next? then
      advance
      named name
    else
      let properties ← properties
      beginAnchor properties.anchor
      let sequenceTag := collectionTag .sequence properties.tag
      let mappingTag := collectionTag .mapping properties.tag
      let content ← do
        match ← next? with
        | some .blockEntry =>
          if place = .blockOrEntries then
            collection (sequence · sequenceTag)
              (entries [.blockEntry, .key, .value, .blockEnd] bound)
          else if properties.anchor.isSome || properties.tag.isSome then
            pure (scalarOf properties.tag "" true)
          else malformed
        | some (.scalar text isPlain) =>
          advance
          pure (scalarOf properties.tag (String.ofList text) isPlain)
        | some .flowSequenceStart =>
          advance
          collection (sequence · sequenceTag) (flowItems true bound)
        | some .flowMappingStart =>
          advance
          collection (mapping · mappingTag) (flowPairs true bound)
        | other =>
          if place ≠ .flow ∧ other = some .blockSequenceStart then
            advance
            let items := entries [.blockEntry, .blockEnd] bound
            collection (sequence · sequenceTag) (items <* expect .blockEnd)
          else if place ≠ .flow ∧ other = some .blockMappingStart then
            advance
            collection (mapping · mappingTag) (blockPairs bound <* expect .blockEnd)
          else if properties.anchor.isSome || properties.tag.isSome then
            pure (scalarOf properties.tag "" true)
          else malformed
      endAnchor properties.anchor content

/-- A node that is missing where one of the given tokens comes next. -/
def nodeUnless (ends : List Token) (place : Place) : Nat → Reader Node
  | 0 => malformed
  | bound + 1 => do
    if ← isNext ends then return missing
    else node place bound

/-- The entries of a block sequence, each after its hyphen. -/
def entries (ends : List Token) : Nat → Reader (List Node)
  | 0 => malformed
  | bound + 1 => do
    if ← accept .blockEntry then
      let item ← nodeUnless ends .block bound
      return item :: (← entries ends bound)
    else return []

/-- The value of a block mapping after its key. -/
def blockValue : Nat → Reader Node
  | 0 => malformed
  | bound + 1 => do
    if ← accept .value then nodeUnless blockValueEnds .blockOrEntries bound
    else return missing

def blockPairs : Nat → Reader (List (Node × Node))
  | 0 => malformed
  | bound + 1 => do
    if ← accept .key then
      let key ← nodeUnless blockValueEnds .blockOrEntries bound
      let value ← blockValue bound
      return (key, value) :: (← blockPairs bound)
    else return []

/-- A key of a flow collection after its token, and the value after it. -/
def flowPair (ending : Token) : Nat → Reader (Node × Node)
  | 0 => malformed
  | bound + 1 => do
    let key ← nodeUnless [.value, .flowEntry, ending] .flow bound
    if ← accept .value then return (key, ← nodeUnless [.flowEntry, ending] .flow bound)
    else return (key, missing)

/-- The items of a flow sequence with its end.  A key makes an item a mapping of one pair. -/
def flowItems (isFirst : Bool) : Nat → Reader (List Node)
  | 0 => malformed
  | bound + 1 => do
    if ← accept .flowSequenceEnd then return []
    else
      if !isFirst then expect .flowEntry
      if ← accept .key then
        let pair ← collection (mapping · .mapping [·]) (flowPair .flowSequenceEnd bound)
        return pair :: (← flowItems false bound)
      else if ← accept .flowSequenceEnd then return []
      else
        let item ← node .flow bound
        return item :: (← flowItems false bound)

/-- The pairs of a flow mapping with its end.  A value may be missing with its colon. -/
def flowPairs (isFirst : Bool) : Nat → Reader (List (Node × Node))
  | 0 => malformed
  | bound + 1 => do
    if ← accept .flowMappingEnd then return []
    else
      if !isFirst then expect .flowEntry
      if ← accept .key then
        let pair ← flowPair .flowMappingEnd bound
        return pair :: (← flowPairs false bound)
      else if ← accept .flowMappingEnd then return []
      else
        let key ← node .flow bound
        return (key, missing) :: (← flowPairs false bound)

end

/-! ## Documents -/

/-- What the handles of tags stand for where no directive says otherwise. -/
def standardHandles : List (String × String) := [("!", "!"), ("!!", Tag.standardStart)]

/-- The version of documents that is read. -/
def knownMajorVersion : Nat := 1

/-- Directives before a document: at most one version, which must be known, and handles, each at
most once. -/
def directives : Nat → Bool → List (String × String) → Reader Unit
  | 0, _, _ => malformed
  | bound + 1, hasVersion, handles => do
    match ← next? with
    | some (.versionDirective major) =>
      if hasVersion || major ≠ knownMajorVersion then malformed
      else
        advance
        directives bound true handles
    | some (.tagDirective handle start) =>
      if (handles.lookup handle).isSome then malformed
      else
        advance
        directives bound hasVersion ((handle, start) :: handles)
    | some .otherDirective =>
      advance
      directives bound hasVersion handles
    | _ => modify fun cursor => { cursor with handles := handles ++ standardHandles }

def isDirective : Token → Bool
  | .versionDirective _ => true
  | .tagDirective _ _ => true
  | .otherDirective => true
  | _ => false

/-- The only document of a text; a text without one has none. -/
def onlyDocument (bound : Nat) : Reader (Option Node) := do
  match ← next? with
  | none => return none
  | some first =>
    let document ←
      if isDirective first || first = .documentStart then do
        directives bound false []
        expect .documentStart
        match ← next? with
        | none => pure missing
        | some next =>
          if isDirective next || next = .documentStart || next = .documentEnd then pure missing
          else node .block bound
      else node .block bound
    modify fun cursor => { cursor with tokens := cursor.tokens.dropWhile (· = .documentEnd) }
    if (← next?).isNone then return some document else malformed

/-- How many collections may be open at once. -/
def greatestDepth : Nat := 480

/-- The node of a text that holds at most one document, and its collections.  An empty text has
none. -/
def ofText (text : List Char) : Except Fault (Option Node × List (Nat × Node)) := do
  let tokens := tokens text
  let start : Cursor :=
    { tokens, handles := standardHandles, anchors := [], collections := [], begun := 0
      room := greatestDepth }
  let (document, cursor) ← (onlyDocument (3 * tokens.length + 3)).run start
  return (document, cursor.collections)

end Node

end ApiDocs.Yaml
