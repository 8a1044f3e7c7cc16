import ApiDocs.Exhaustion
import ApiDocs.Source.Tree
import ApiDocs.Text.Normal

/-!
The values of number and text literals.
-/

namespace ApiDocs.Source

open ApiDocs.Text (hexValue? numberOfDigits)

/-! ## Numbers -/

/-- The value of a number with a point, an exponent or neither. -/
def realOf (spelling : List Char) : Double :=
  let isMark (character : Char) : Bool := character == 'e' || character == 'E'
  let mantissa := spelling.takeWhile fun character => !isMark character
  let exponent := (spelling.dropWhile fun character => !isMark character).drop 1
  let whole := mantissa.takeWhile (· ≠ '.')
  let fraction := (mantissa.dropWhile (· ≠ '.')).drop 1
  let power : Int :=
    match exponent with
    | '-' :: digits => -(numberOfDigits 10 digits : Int)
    | '+' :: digits => numberOfDigits 10 digits
    | digits => numberOfDigits 10 digits
  Double.ofDecimal false (numberOfDigits 10 (whole ++ fraction)) (power - fraction.length)

/-- The value of a number, unless it is a decimal integer with too many digits. -/
def numberOf? (spelling : List Char) : Option Literal :=
  let digits := spelling.filter (· ≠ '_')
  match digits with
  | '0' :: 'x' :: digits => some (.integer (numberOfDigits 16 digits))
  | '0' :: 'X' :: digits => some (.integer (numberOfDigits 16 digits))
  | '0' :: 'o' :: digits => some (.integer (numberOfDigits 8 digits))
  | '0' :: 'O' :: digits => some (.integer (numberOfDigits 8 digits))
  | '0' :: 'b' :: digits => some (.integer (numberOfDigits 2 digits))
  | '0' :: 'B' :: digits => some (.integer (numberOfDigits 2 digits))
  | _ =>
    if digits.getLast? = some 'j' ∨ digits.getLast? = some 'J' then
      some (.imaginary (realOf digits.dropLast))
    else if digits.all Char.isDigit then
      if greatestDigitCount < digits.length then none
      else some (.integer (numberOfDigits 10 digits))
    else some (.real (realOf digits))

/-! ## Escapes -/

/-- The character that a backslash and a letter stand for. -/
def simpleEscape? (letter : Char) : Option Nat :=
  match letter with
  | '\\' => some 0x5C
  | '\'' => some 0x27
  | '"' => some 0x22
  | 'a' => some 0x07
  | 'b' => some 0x08
  | 'f' => some 0x0C
  | 'n' => some 0x0A
  | 'r' => some 0x0D
  | 't' => some 0x09
  | 'v' => some 0x0B
  | _ => none

/-- The octal digits, three at most, that a text begins with. -/
def octalDigits (text : List Char) : List Char :=
  (text.take 3).takeWhile fun digit => '0' ≤ digit && digit ≤ '7'

/-- The value of the given number of hexadecimal digits. -/
def hexadecimal? (width : Nat) (text : List Char) : Option Nat :=
  let digits := text.take width
  if digits.length = width ∧ digits.all (fun digit => (hexValue? digit).isSome) then
    some (numberOfDigits 16 digits)
  else none

/-- How many hexadecimal digits follow a letter of an escape by number. -/
def escapeWidth? (letter : Char) : Option Nat :=
  match letter with
  | 'x' => some 2
  | 'u' => some 4
  | 'U' => some 8
  | _ => none

def greatestCodePoint : Nat := 0x10FFFF

/-- The code points that characters are called by name for. -/
abbrev CharacterNames := List Char → Option Nat

/-- The character that is called by its name in braces, after a backslash and a letter, and how
many characters belong to the name with its braces. -/
def namedCharacter? (names : CharacterNames) (text : List Char) : Option (Nat × Nat) :=
  match text with
  | '\x7b' :: rest =>
    let name := rest.takeWhile (· ≠ '\x7d')
    if name.isEmpty || name.length = rest.length then none
    else (names name).map fun codePoint => (codePoint, name.length + 2)
  | _ => none

/-- What one backslash and the text after it stand for, and how many characters of that text
belong to it.  An unknown letter keeps its backslash. -/
def textEscape? (names : CharacterNames) (after : List Char) : Option (List Nat × Nat) :=
  match after with
  | [] => some ([0x5C], 0)
  | '\n' :: _ => some ([], 1)
  | 'N' :: rest =>
    (namedCharacter? names rest).map fun (codePoint, length) => ([codePoint], length + 1)
  | letter :: rest =>
    match simpleEscape? letter, escapeWidth? letter with
    | some codePoint, _ => some ([codePoint], 1)
    | none, some width =>
      match hexadecimal? width rest with
      | some codePoint =>
        if codePoint ≤ greatestCodePoint then some ([codePoint], width + 1) else none
      | none => none
    | none, none =>
      let octal := octalDigits after
      if octal.isEmpty then some ([0x5C], 0)
      else some ([numberOfDigits 8 octal], octal.length)

/-- As in a text, but only two letters of escapes by number are known, and octal numbers are
taken modulo the size of a byte. -/
def byteEscape? (after : List Char) : Option (List Nat × Nat) :=
  match after with
  | [] => some ([0x5C], 0)
  | '\n' :: _ => some ([], 1)
  | 'x' :: rest => (hexadecimal? 2 rest).map fun byte => ([byte], 3)
  | letter :: _ =>
    match simpleEscape? letter with
    | some codePoint => some ([codePoint], 1)
    | none =>
      let octal := octalDigits after
      if octal.isEmpty then some ([0x5C], 0)
      else some ([numberOfDigits 8 octal % 0x100], octal.length)

/-- The code points of a body with escapes.  `skip` characters belong to the escape before. -/
def unescape (escape? : List Char → Option (List Nat × Nat)) :
    Nat → List Char → Option (List Nat)
  | _, [] => some []
  | skip + 1, _ :: rest => unescape escape? skip rest
  | 0, '\\' :: rest => do
    let (codePoints, length) ← escape? rest
    let more ← unescape escape? length rest
    pure (codePoints ++ more)
  | 0, next :: rest => (unescape escape? 0 rest).map (next.toNat :: ·)

/-- The code points of the body of a text; a raw body stands for itself. -/
def textOfBody? (names : CharacterNames) (isRaw : Bool) (body : List Char) : Option (List Nat) :=
  if isRaw then some (body.map Char.toNat) else unescape (textEscape? names) 0 body

/-- The bytes of the body of a byte literal, which holds ASCII only. -/
def bytesOfBody? (isRaw : Bool) (body : List Char) : Option (List UInt8) :=
  if body.any fun character => character.toNat ≥ 0x80 then none
  else
    (if isRaw then some (body.map Char.toNat) else unescape byteEscape? 0 body).map
      (List.map Nat.toUInt8)

def hasMark (marks : List Char) (mark : Char) : Bool :=
  marks.any fun letter => letter.toLower == mark

end ApiDocs.Source
