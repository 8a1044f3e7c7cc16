/-!
Similar words: two words are the more similar the more of their characters stand in common blocks.
-/

namespace ApiDocs.Text

/-- The length of the common beginning of two texts. -/
def commonLength : List Char → List Char → Nat
  | first :: rest, first' :: rest' => if first = first' then commonLength rest rest' + 1 else 0
  | _, _ => 0

/-- A block that two texts share: where it begins in each, and its length. -/
structure Block where
  start : Nat
  start' : Nat
  length : Nat
deriving DecidableEq, Repr

/-- The blocks that begin at all pairs of positions, by the position in the first text and then by
the one in the second. -/
def blocks (text text' : List Char) : List Block :=
  (List.range text.length).flatMap fun start =>
    (List.range text'.length).map fun start' =>
      { start, start', length := commonLength (text.drop start) (text'.drop start') }

/-- The longest common block; of several the first. -/
def longestBlock (text text' : List Char) : Block :=
  (blocks text text').foldl
    (fun best block => if best.length < block.length then block else best)
    { start := 0, start' := 0, length := 0 }

/-- The number of characters in common blocks: the longest one, and those that the texts before it
and after it have in common. -/
def sharedFrom : Nat → List Char → List Char → Nat
  | 0, _, _ => 0
  | bound + 1, text, text' =>
    let block := longestBlock text text'
    if block.length = 0 then 0
    else
      sharedFrom bound (text.take block.start) (text'.take block.start') + block.length +
        sharedFrom bound (text.drop (block.start + block.length))
          (text'.drop (block.start' + block.length))

def shared (text text' : List Char) : Nat := sharedFrom (text.length + 1) text text'

/-- A candidate with the characters that it shares with a word, and the length of both. -/
structure Similarity where
  candidate : String
  shared : Nat
  total : Nat

/-- Whether six tenths of all characters are shared. -/
def Similarity.isClose (similarity : Similarity) : Bool :=
  6 * similarity.total ≤ 10 * (2 * similarity.shared)

/-- Order by the part of the characters that is shared, and then by the candidates, both from the
greatest on. -/
def Similarity.precedes (first second : Similarity) : Bool :=
  let left := first.shared * second.total
  let right := second.shared * first.total
  right < left || (left == right && decide (second.candidate ≤ first.candidate))

/-- How many candidates are offered at most. -/
def greatestOffer : Nat := 3

/-- The candidates that a word may have been meant for, the most similar first. -/
def closeMatches (word : String) (candidates : List String) : List String :=
  let similarities := candidates.map fun candidate =>
    { candidate
      shared := shared candidate.toList word.toList
      total := candidate.length + word.length : Similarity }
  let close := (similarities.filter Similarity.isClose).mergeSort Similarity.precedes
  (close.take greatestOffer).map Similarity.candidate

end ApiDocs.Text
