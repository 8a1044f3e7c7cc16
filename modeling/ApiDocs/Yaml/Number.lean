import ApiDocs.Exhaustion
import ApiDocs.Number.Double
import ApiDocs.Text.Lines
import ApiDocs.Text.Normal

/-!
Numbers of YAML documents: which plain words are numbers, and what they stand for.  Underscores in
a number say nothing, and colons separate digits of base sixty.
-/

namespace ApiDocs.Yaml

open ApiDocs.Text (hexValue? numberOfDigits splitOn)

/-! ## Words that are numbers -/

def isSign (character : Char) : Bool := character == '+' || character == '-'

def dropSign (text : List Char) : List Char :=
  match text with
  | next :: rest => if isSign next then rest else text
  | [] => []

def isDigitOrLine (character : Char) : Bool := character.isDigit || character == '_'

def beginsWithDigit (text : List Char) : Bool := text.head?.any Char.isDigit

/-- Nothing, or an exponent with its sign. -/
def isExponent (text : List Char) : Bool :=
  match text with
  | [] => true
  | mark :: sign :: digits =>
    (mark == 'e' || mark == 'E') && isSign sign && !digits.isEmpty && digits.all Char.isDigit
  | _ => false

/-- Digits after a point, with an exponent or without one. -/
def isFraction (text : List Char) : Bool := isExponent (text.dropWhile isDigitOrLine)

/-- A digit of base sixty: one or two decimal digits. -/
def isSixtieth (digits : List Char) : Bool :=
  match digits with
  | [low] => low.isDigit
  | [high, low] => '0' ≤ high && high ≤ '5' && low.isDigit
  | _ => false

/-- Two or more numbers between colons, all but the first of which are digits of base sixty. -/
def isSexagesimal (text : List Char) : Bool :=
  match splitOn ':' text with
  | first :: second :: rest =>
    beginsWithDigit first && first.all isDigitOrLine && (second :: rest).all isSixtieth
  | _ => false

/-- Whether a word is a number with a point. -/
def isDouble (text : List Char) : Bool :=
  let body := dropSign text
  let whole := body.takeWhile (· ≠ '.')
  match body.dropWhile (· ≠ '.') with
  | '.' :: fraction =>
    if whole.isEmpty then
      ["inf", "Inf", "INF"].contains (String.ofList fraction) ||
        (body == text &&
          (["nan", "NaN", "NAN"].contains (String.ofList fraction) ||
            (beginsWithDigit fraction && isFraction fraction)))
    else
      (beginsWithDigit whole && whole.all isDigitOrLine && isFraction fraction) ||
        (isSexagesimal whole && fraction.all isDigitOrLine)
  | _ => false

/-- Whether a word is an integer: binary, octal, hexadecimal, decimal or of base sixty. -/
def isInteger (text : List Char) : Bool :=
  let isIn (digits : String) (text : List Char) : Bool :=
    text.all fun character => character == '_' || digits.toList.contains character
  match dropSign text with
  | '0' :: 'b' :: digits => !digits.isEmpty && isIn "01" digits
  | '0' :: 'x' :: digits => !digits.isEmpty && isIn "0123456789abcdefABCDEF" digits
  | '0' :: digits => isIn "01234567" digits
  | body => beginsWithDigit body && (body.all isDigitOrLine || isSexagesimal body)

/-! ## Values of numbers -/

/-- Why a word is not the number that its tag says. -/
inductive NumberFault where
  /-- Nothing is left without sign and underscores. -/
  | empty
  | notInteger (base : Nat) (word : List Char)
  | notDouble (word : List Char)
  /-- An integer has too many decimal digits. -/
  | tooManyDigits (count : Nat)
  /-- An integer is no double, since it is too large. -/
  | tooLarge
deriving DecidableEq, Repr

/-- The letter that announces digits of a base after a zero. -/
def baseLetter? (base : Nat) : Option Char :=
  match base with
  | 2 => some 'b'
  | 8 => some 'o'
  | 16 => some 'x'
  | _ => none

/-- The integer that a word stands for in a base.  White space around it, a sign, and a zero with
the letter of the base before its digits are accepted.  Decimal digits are counted before what
follows them is looked at. -/
def integerIn (base : Nat) (word : List Char) : Except NumberFault Int :=
  let body := Text.trim word
  let isNegative := body.head? == some '-'
  let unsigned := dropSign body
  let digits :=
    match unsigned with
    | '0' :: letter :: digits =>
      if (baseLetter? base).any (letter.toLower == ·) then digits else unsigned
    | _ => unsigned
  let isDigit (digit : Char) : Bool := (hexValue? digit).any (· < base)
  let count := (digits.takeWhile isDigit).length
  if base = 10 ∧ greatestDigitCount < count then .error (.tooManyDigits count)
  else if digits.isEmpty || !digits.all isDigit then .error (.notInteger base word)
  else
    let size : Int := numberOfDigits base digits
    .ok (if isNegative then -size else size)

/-- The double that a word stands for.  White space around it, a sign, and the words for the
infinities and for what is no number are accepted. -/
def doubleIn (word : List Char) : Except NumberFault Double :=
  let body := Text.trim word
  let isNegative := body.head? == some '-'
  let unsigned := (dropSign body).map Char.toLower
  let isMark (character : Char) : Bool := character == 'e'
  let mantissa := unsigned.takeWhile fun character => !isMark character
  let whole := mantissa.takeWhile (· ≠ '.')
  let fraction := (mantissa.dropWhile (· ≠ '.')).drop 1
  let digits := whole ++ fraction
  let afterMark := (unsigned.dropWhile fun character => !isMark character).drop 1
  let exponent := dropSign afterMark
  if unsigned == "inf".toList || unsigned == "infinity".toList then .ok (.infinite isNegative)
  else if unsigned == "nan".toList then .ok .nan
  else if digits.isEmpty || !digits.all Char.isDigit || !exponent.all Char.isDigit ||
      (exponent.isEmpty && unsigned.any isMark) then .error (.notDouble word)
  else
    let size : Int := numberOfDigits 10 exponent
    let power : Int := if afterMark.head? == some '-' then -size else size
    .ok (.ofDecimal isNegative (numberOfDigits 10 digits) (power - fraction.length))

/-- The word without underscores, and whether a minus sign was before it. -/
def unsignedWord (text : List Char) : Except NumberFault (Bool × List Char) :=
  match text.filter (· ≠ '_') with
  | [] => .error .empty
  | word => .ok (word.head? == some '-', dropSign word)

/-- The integer that a scalar stands for. -/
def integerOf (text : List Char) : Except NumberFault Int := do
  let (isNegative, word) ← unsignedWord text
  let size ←
    match word with
    | [] => .error .empty
    | ['0'] => pure 0
    | '0' :: 'b' :: digits => integerIn 2 digits
    | '0' :: 'x' :: digits => integerIn 16 digits
    | '0' :: _ => integerIn 8 word
    | _ =>
      if word.contains ':' then do
        let digits ← (splitOn ':' word).mapM (integerIn 10)
        pure (digits.foldl (fun total digit => total * 60 + digit) 0)
      else integerIn 10 word
  return if isNegative then -size else size

/-- The sum of digits of base sixty, from the last digit on, each with its weight. -/
def sumOfSixtieths (weight : Nat) : List Double → Double → Double
  | [], total => total
  | digit :: digits, total => sumOfSixtieths (weight * 60) digits (total.add (digit.mulNat weight))

/-- No double is as large as this. -/
def doubleLimit : Nat := Nat.pow 2 1024

/-- The double that a scalar stands for.  Of digits of base sixty the first has the greatest
weight. -/
def doubleOf (text : List Char) : Except NumberFault Double := do
  let (isNegative, word) ← unsignedWord (text.map Char.toLower)
  let size ←
    if word == ".inf".toList then pure (.infinite false)
    else if word == ".nan".toList then pure .nan
    else if word.contains ':' then do
      let digits ← (splitOn ':' word).mapM doubleIn
      if doubleLimit ≤ Nat.pow 60 (digits.length - 1) then .error .tooLarge
      else pure (sumOfSixtieths 1 digits.reverse (.zero false))
    else doubleIn word
  return if isNegative then size.negate else size

end ApiDocs.Yaml
