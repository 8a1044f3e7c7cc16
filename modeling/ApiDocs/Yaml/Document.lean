import ApiDocs.Yaml.Base64
import ApiDocs.Yaml.Mapping
import ApiDocs.Yaml.Node

/-!
The value of a document.  Collections are filled level by level, so of two faults the one nearer to
the root is met first, and of two on one level the one that stands first in the document.
-/

namespace ApiDocs.Yaml

/-! ## Faults by level -/

/-- A result, or a fault with its level. -/
abbrev Leveled (α : Type) := Except (Nat × Fault) α

/-- Two results; of two faults the one on the higher level, or the first. -/
def both {α β : Type} (first : Leveled α) (second : Leveled β) : Leveled (α × β) :=
  match first, second with
  | .ok first, .ok second => .ok (first, second)
  | .error fault, .error other => .error (if other.1 < fault.1 then other else fault)
  | .error fault, .ok _ => .error fault
  | .ok _, .error fault => .error fault

def all {α β : Type} (build : α → Leveled β) : List α → Leveled (List β)
  | [] => .ok []
  | item :: items => (both (build item) (all build items)).map fun (first, rest) => first :: rest

/-! ## Nodes -/

/-- The stack is exhausted by what stands inside of itself. -/
def tooDeep : Fault := .exhausted (.stack "")

/-- The collections of a document by their numbers. -/
abbrev Collections := List (Nat × Node)

namespace Node

/-- A collection in the place of a reference to it. -/
def resolve (collections : Collections) (node : Node) : Node :=
  match node with
  | enclosing number => (collections.lookup number).getD node
  | _ => node

/-- The tag of a node; a reference has that of its collection. -/
def tag (collections : Collections) (node : Node) : Tag :=
  match node.resolve collections with
  | scalar tag _ => tag
  | sequence _ tag _ => tag
  | mapping _ tag _ => tag
  | enclosing _ => .other ""

end Node

section Values

variable (collections : Collections)

/-! ## Scalars -/

/-- The text of a scalar.  A mapping with a value key stands for the value of that key. -/
def scalarText (node : Node) : Nat → Except Fault String
  | 0 => .error tooDeep
  | bound + 1 =>
    match node.resolve collections with
    | .scalar _ text => .ok text
    | .mapping _ _ pairs =>
      match pairs.find? fun (key, _) => key.tag collections = .value with
      | some (_, value) => scalarText value bound
      | none => .error .malformed
    | _ => .error .malformed

def booleanOf (text : String) : Except Fault Value :=
  let word := String.ofList (text.toList.map Char.toLower)
  match Tag.booleanWords.lookup word with
  | some value => .ok (.boolean value)
  | none => .error (.notBoolean word)

/-- The value of a scalar with a tag of scalars; for other tags there is none. -/
def scalarValue (tag : Tag) (text : String) : Except Fault Value :=
  match tag with
  | .null => .ok .null
  | .boolean => booleanOf text
  | .integer => ((integerOf text.toList).map Value.integer).mapError Fault.number
  | .double => ((doubleOf text.toList).map Value.double).mapError Fault.number
  | .binary =>
    match base64? text.toList with
    | some bytes => .ok (.bytes bytes)
    | none => .error .malformed
  | .timestamp =>
    match Timestamp.ofText? text.toList with
    | some timestamp => timestamp.value.mapError Fault.calendar
    | none => .error .notTimestamp
  | .text => .ok (.text text)
  | _ => .error .malformed

/-! ## Merged pairs -/

/-- A value key without a tag is a text where it is a key. -/
def plainKey (key : Node) : Node :=
  match key with
  | .scalar .value text => .scalar .text text
  | _ => key

/-- The pairs of a mapping itself, and the values that are merged into it. -/
def ownAndMerged (pairs : List (Node × Node)) : List (Node × Node) × List Node :=
  let (merges, own) := pairs.partition fun (key, _) => key.tag collections = .merge
  (own.map fun (key, value) => (plainKey key, value), merges.map Prod.snd)

mutual

/-- The pairs of a mapping, after the pairs of the mappings that are merged into it.  A mapping that
is merged into itself is not merged a second time. -/
def mergedPairs? (merging : List Nat) (number : Nat) (pairs : List (Node × Node)) :
    Nat → Option (List (Node × Node))
  | 0 => none
  | bound + 1 => do
    let (own, values) := ownAndMerged collections pairs
    if merging.contains number then return own
    else
      let merged ← values.mapM fun value => mergeOf? (number :: merging) value bound
      return merged.flatten ++ own

/-- The pairs that the value of a merge key stands for.  Of several mappings the first counts most,
so its pairs come last. -/
def mergeOf? (merging : List Nat) (value : Node) : Nat → Option (List (Node × Node))
  | 0 => none
  | bound + 1 =>
    match value.resolve collections with
    | .mapping number _ pairs => mergedPairs? merging number pairs bound
    | .sequence _ _ items => do
      let parts ← items.mapM fun item =>
        match item.resolve collections with
        | .mapping number _ pairs => mergedPairs? merging number pairs bound
        | _ => none
      return parts.reverse.flatten
    | _ => none

end

/-! ## Collections -/

/-- Whether a value can be a key: collections cannot. -/
def canBeKey : Value → Bool
  | .list _ => false
  | .mapping _ => false
  | .set _ => false
  | .enclosing _ => false
  | _ => true

/-- The collections around the parts of a collection, given those around itself.  The document is
met anew inside of itself, and so is a list directly in it. -/
def around (level : Nat) (isList : Bool) (number : Nat) (outer : List Nat) : List Nat :=
  if level = 0 ∨ level = 1 ∧ isList then outer else number :: outer

/-- A collection is not written out inside of itself. -/
def unlessInside (outer : List Nat) (number : Nat) (isMapping : Bool)
    (value : Leveled Value) : Leveled Value :=
  if outer.contains number then .ok (.enclosing isMapping) else value

mutual

/-- The value of a node whose parent is filled at the given level and that stands in the given
collections. -/
def valueAt (level : Nat) (outer : List Nat) (node : Node) : Nat → Leveled Value
  | 0 => .error (level, tooDeep)
  | bound + 1 =>
    match node.tag collections, node.resolve collections with
    | .sequence, .sequence number _ items =>
      unlessInside outer number false
        ((all (fun item => valueAt (level + 1) (around level true number outer) item bound)
          items).map Value.list)
    | .mapping, .mapping number _ pairs =>
      unlessInside outer number true
        ((pairsAt (level + 1) (around level false number outer) number pairs bound).map
          Value.mapping)
    | .set, .mapping number _ pairs =>
      unlessInside outer number true
        ((pairsAt (level + 1) (around level false number outer) number pairs bound).map fun pairs =>
          .set (pairs.map Prod.fst))
    | .orderedPairs, .sequence number _ items =>
      unlessInside outer number false
        (tuplesAt (level + 1) (around level true number outer) items bound)
    | .pairs, .sequence number _ items =>
      unlessInside outer number false
        (tuplesAt (level + 1) (around level true number outer) items bound)
    | tag, node =>
      if [Tag.sequence, .mapping, .set, .orderedPairs, .pairs].contains tag then
        .error (level + 1, .malformed)
      else
        match scalarText collections node (collections.length + 2) with
        | .ok text => (scalarValue tag text).mapError fun fault => (level, fault)
        | .error fault => .error (level, fault)
termination_by structural bound => bound

/-- The pairs of a mapping that is filled at a level. -/
def pairsAt (level : Nat) (outer : List Nat) (number : Nat) (pairs : List (Node × Node)) :
    Nat → Leveled (List (Value × Value))
  | 0 => .error (level, tooDeep)
  | bound + 1 =>
    match mergedPairs? collections [] number pairs (2 * collections.length + 2) with
    | none => .error (level, .malformed)
    | some pairs =>
      let pairAt (pair : Node × Node) : Leveled (Value × Value) :=
        let key := do
          let key ← valueAt level outer pair.1 bound
          if canBeKey key then pure key else .error (level, .malformed)
        both key (valueAt level outer pair.2 bound)
      (all pairAt pairs).map fun pairs =>
        pairs.foldl (fun pairs pair => insertPair pairs pair.1 pair.2) []
termination_by structural bound => bound

/-- A list of pairs, each written as a mapping of its own. -/
def tuplesAt (level : Nat) (outer : List Nat) (items : List Node) : Nat → Leveled Value
  | 0 => .error (level, tooDeep)
  | bound + 1 =>
    let tupleAt (item : Node) : Leveled Value :=
      match item.resolve collections with
      | .mapping _ _ [(key, value)] =>
        (both (valueAt level outer key bound) (valueAt level outer value bound)).map
          fun (key, value) => .tuple [key, value]
      | _ => .error (level, .malformed)
    (all tupleAt items).map Value.list
termination_by structural bound => bound

end

end Values

/-! ## Texts and files -/

/-- The value of a text; an empty text has none. -/
def read (text : List Char) : Except Fault (Option Value) := do
  match ← Node.ofText text with
  | (none, _) => return none
  | (some node, collections) =>
    match valueAt collections 0 [] node (2 * collections.length + 8) with
    | .ok value => return some value
    | .error (_, fault) => throw fault

/-- The text of a file that is read in pieces: an incomplete character at its end is found with the
last piece, in which nothing stands before it. -/
def textOf (bytes : List UInt8) : Except Fault (List Char) :=
  match Text.decode bytes with
  | .ok text => .ok (Text.unifyLineEnds text)
  | .error fault =>
    if fault.reason = .unexpectedEnd then .error (.undecodable { fault with position := 0 })
    else .error (.undecodable fault)

/-- The value of a file. -/
def readFile (bytes : List UInt8) : Except Fault (Option Value) := textOf bytes >>= read

end ApiDocs.Yaml
