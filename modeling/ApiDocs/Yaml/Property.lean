import ApiDocs.Text.Utf8
import ApiDocs.Yaml.Token

/-!
Names of anchors, tags, and directives.  Each reader begins after the indicator and returns what it
has read together with what follows.
-/

namespace ApiDocs.Yaml

/-! ## Anchors -/

/-- What may follow the name of an anchor without white space between them. -/
def anchorEnds : List Char := "?:,]\x7d%@\x60".toList

/-- The name of an anchor, where it is set and where it is referred to. -/
def anchorName? (text : List Char) : Option (String × List Char) :=
  let name := text.takeWhile isNameCharacter
  let rest := text.dropWhile isNameCharacter
  if !name.isEmpty && (atBlank rest || isAt anchorEnds.contains rest) then
    some (String.ofList name, rest)
  else none

/-! ## Tags -/

/-- A character that is written by the number of its bytes. -/
def percentBytes? : Nat → List Char → Option (List UInt8 × List Char)
  | 0, _ => none
  | bound + 1, text =>
    match text with
    | '%' :: high :: low :: rest => do
      let byte := Text.numberOfDigits 16 [high, low]
      if !(Text.hexValue? high).isSome || !(Text.hexValue? low).isSome then none
      else
        let (bytes, rest) ← percentBytes? bound rest
        return (byte.toUInt8 :: bytes, rest)
    | '%' :: _ => none
    | _ => some ([], text)

def isTagCharacter (character : Char) : Bool :=
  character.isAlphanum || "-;/?:@&=+$,_.!~*'()[]".toList.contains character

/-- The characters of a tag; a percent sign begins the bytes of characters. -/
def tagCharacters? : Nat → List Char → Option (List Char × List Char)
  | 0, _ => none
  | bound + 1, text =>
    match text with
    | [] => some ([], [])
    | next :: rest =>
      if next == '%' then do
        let (bytes, rest) ← percentBytes? (text.length + 1) text
        let part ← (Text.decode bytes).toOption
        let (more, rest) ← tagCharacters? bound rest
        return (part ++ more, rest)
      else if isTagCharacter next then do
        let (more, rest) ← tagCharacters? bound rest
        return (next :: more, rest)
      else some ([], text)

/-- The characters of a tag, of which there is at least one. -/
def tagText? (text : List Char) : Option (String × List Char) := do
  let (characters, rest) ← tagCharacters? (text.length + 1) text
  if characters.isEmpty then none else some (String.ofList characters, rest)

/-- The handle of a tag, with its exclamation marks: one mark, or two around a name. -/
def handle? (text : List Char) : Option (String × List Char) :=
  match text with
  | '!' :: rest =>
    let name := rest.takeWhile isNameCharacter
    match rest.dropWhile isNameCharacter with
    | '!' :: after => some (String.ofList ('!' :: name ++ ['!']), after)
    | after => if name.isEmpty && after.head? == some ' ' then some ("!", after) else none
  | _ => none

/-- A tag, which begins at the given text with its exclamation mark. -/
def tag? (text : List Char) : Option (WrittenTag × List Char) := do
  let after := text.drop 1
  let (tag, rest) ←
    match after with
    | '<' :: rest => do
      let (suffix, rest) ← tagText? rest
      match rest with
      | '>' :: rest => some ({ handle := none, suffix : WrittenTag }, rest)
      | _ => none
    | _ =>
      if atBlank after then some ({ handle := none, suffix := "!" }, after)
      else do
        let word := after.takeWhile fun next => !isBreak next && next != ' '
        let (handle, rest) ← if word.contains '!' then handle? text else some ("!", after)
        let (suffix, rest) ← tagText? rest
        some ({ handle := some handle, suffix }, rest)
  if atSpace rest then some (tag, rest) else none

/-! ## Directives -/

/-- A number of a version. -/
def versionNumber? (text : List Char) : Option (Except NumberFault Int × List Char) :=
  let digits := text.takeWhile Char.isDigit
  if digits.isEmpty then none
  else some (integerIn 10 digits, text.dropWhile Char.isDigit)

/-- A version after the name of its directive. -/
def version? (text : List Char) : Option (Token × List Char) := do
  match ← versionNumber? text with
  | (.ok major, '.' :: rest) =>
    match ← versionNumber? rest with
    | (.ok _, rest) => if atSpace rest then some (.versionDirective major, rest) else none
    | (.error fault, _) => some (.unreadable (.number fault), [])
  | (.ok _, _) => none
  | (.error fault, _) => some (.unreadable (.number fault), [])

/-- A directive after its percent sign.  Nothing but a comment may follow it on its line. -/
def directive? (text : List Char) : Option (Token × List Char) := do
  let dropSpaces (text : List Char) : List Char := text.dropWhile (· == ' ')
  let toLineEnd (text : List Char) : List Char := text.dropWhile fun next => !isBreak next
  let name := text.takeWhile isNameCharacter
  let rest := text.dropWhile isNameCharacter
  if name.isEmpty || !atSpace rest then none
  else
    let (token, rest) ←
      if name == "YAML".toList then version? (dropSpaces rest)
      else if name == "TAG".toList then do
        let (handle, rest) ← handle? (dropSpaces rest)
        if rest.head? ≠ some ' ' then none
        else
          let (start, rest) ← tagText? (dropSpaces rest)
          if atSpace rest then some (.tagDirective handle start, rest) else none
      else some (.otherDirective, toLineEnd rest)
    let rest := dropSpaces rest
    let rest := if rest.head? == some '#' then toLineEnd rest else rest
    if atBreak rest then some (token, rest) else none

end ApiDocs.Yaml
