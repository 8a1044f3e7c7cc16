/-!
Escaped forms of text in HTML, in script literals and in addresses.
-/

namespace ApiDocs.Text

/-! ## Markup -/

/-- The escaped form of a character in running text. -/
def escapeMarkupCharacter (character : Char) : List Char :=
  match character with
  | '&' => "&amp;".toList
  | '<' => "&lt;".toList
  | '>' => "&gt;".toList
  | _ => [character]

/-- The escaped form of a character inside an attribute value. -/
def escapeAttributeCharacter (character : Char) : List Char :=
  match character with
  | '"' => "&quot;".toList
  | '\'' => "&#x27;".toList
  | _ => escapeMarkupCharacter character

/-- The escaped form of a character in highlighted code. -/
def escapeCodeCharacter (character : Char) : List Char :=
  match character with
  | '"' => "&quot;".toList
  | '\'' => "&#39;".toList
  | _ => escapeMarkupCharacter character

/-- Running text: the three characters that could begin markup are escaped. -/
def escapeMarkup (text : List Char) : List Char := text.flatMap escapeMarkupCharacter

/-- Text for an attribute value: the quotes are escaped too. -/
def escapeAttribute (text : List Char) : List Char := text.flatMap escapeAttributeCharacter

/-- Program text. -/
def escapeCode (text : List Char) : List Char := text.flatMap escapeCodeCharacter

/-! ## Hexadecimal digits -/

def hexDigit (value : Nat) : Char :=
  if value < 10 then Char.ofNat (48 + value) else Char.ofNat (87 + value)

/-- The last `width` hexadecimal digits of a number, in lower case. -/
def hexDigits (width value : Nat) : List Char :=
  match width with
  | 0 => []
  | width + 1 => hexDigits width (value / 16) ++ [hexDigit (value % 16)]

/-! ## Script literals -/

/-- A unit of UTF-16 as an escape of a script literal. -/
def escapeUnit (unit : Nat) : List Char := '\\' :: 'u' :: hexDigits 4 unit

/-- The escaped form of a character in a script literal, which holds printable ASCII only. -/
def escapeScriptCharacter (character : Char) : List Char :=
  let codePoint := character.toNat
  match character with
  | '"' => ['\\', '"']
  | '\\' => ['\\', '\\']
  | '\n' => ['\\', 'n']
  | '\r' => ['\\', 'r']
  | '\t' => ['\\', 't']
  | '\x0c' => ['\\', 'f']
  | '\x08' => ['\\', 'b']
  | _ =>
    if 0x20 ≤ codePoint && codePoint ≤ 0x7E then [character]
    else if codePoint < 0x10000 then escapeUnit codePoint
    else
      escapeUnit (0xD800 + (codePoint - 0x10000) / 0x400) ++
        escapeUnit (0xDC00 + (codePoint - 0x10000) % 0x400)

/-- A text as a literal of the script in a page. -/
def scriptLiteral (text : List Char) : List Char :=
  '"' :: text.flatMap escapeScriptCharacter ++ ['"']

/-! ## Addresses -/

/-- Characters that an address holds as they are. -/
def isUnreserved (character : Char) : Bool :=
  character.isAlphanum || character == '_' || character == '.' || character == '-' ||
    character == '~'

def percentByte (byte : UInt8) : List Char :=
  '%' :: (hexDigits 2 byte.toNat).map Char.toUpper

/-- Reserved characters are written as the percent forms of their UTF-8 bytes. -/
def percentEncode (text : List Char) : List Char :=
  text.flatMap fun character =>
    if isUnreserved character then [character]
    else (String.utf8EncodeChar character).flatMap percentByte

end ApiDocs.Text
