import ApiDocs.Text.Escape
import ApiDocs.Text.Character

/-!
Quoted literals: a text or a sequence of bytes between quotes, with backslash escapes for what
could not be read back otherwise.
-/

namespace ApiDocs.Text

/-- The backslash escape of a code point that is not written as itself. -/
def escapeByCode (codePoint : Nat) : List Char :=
  match codePoint with
  | 0x09 => ['\\', 't']
  | 0x0A => ['\\', 'n']
  | 0x0D => ['\\', 'r']
  | 0x5C => ['\\', '\\']
  | _ =>
    if codePoint < 0x100 then '\\' :: 'x' :: hexDigits 2 codePoint
    else if codePoint < 0x10000 then '\\' :: 'u' :: hexDigits 4 codePoint
    else '\\' :: 'U' :: hexDigits 8 codePoint

/-- Whether a code point is written as itself inside a literal.  Surrogates are not. -/
def isWrittenPlain (codePoint : Nat) : Bool :=
  codePoint != 0x5C && inRanges printableRanges codePoint

/-- The quote that needs the fewest escapes; the apostrophe is preferred. -/
def preferredQuote (hasApostrophe hasQuotationMark : Bool) : Char :=
  if hasApostrophe && !hasQuotationMark then '"' else '\''

/-- A code point between quotes of the given kind. -/
def quotedCodePoint (quote : Char) (codePoint : Nat) : List Char :=
  if codePoint == quote.toNat then ['\\', quote]
  else if isWrittenPlain codePoint then [Char.ofNat codePoint]
  else escapeByCode codePoint

/-- A sequence of code points, which may hold surrogates, as a literal. -/
def quotedCodePoints (codePoints : List Nat) : List Char :=
  let quote := preferredQuote (codePoints.contains 0x27) (codePoints.contains 0x22)
  quote :: codePoints.flatMap (quotedCodePoint quote) ++ [quote]

/-- A text as a literal. -/
def quoted (text : List Char) : List Char := quotedCodePoints (text.map Char.toNat)

/-- A byte between quotes of the given kind. -/
def quotedByte (quote : Char) (byte : UInt8) : List Char :=
  if byte.toNat == quote.toNat then ['\\', quote]
  else if byte == 0x5C || byte < 0x20 || byte ≥ 0x7F then escapeByCode byte.toNat
  else [Char.ofNat byte.toNat]

/-- A sequence of bytes as a literal. -/
def quotedBytes (bytes : List UInt8) : List Char :=
  let quote := preferredQuote (bytes.contains 0x27) (bytes.contains 0x22)
  'b' :: quote :: bytes.flatMap (quotedByte quote) ++ [quote]

end ApiDocs.Text
