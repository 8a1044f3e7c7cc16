import ApiDocs.Text.Escape

/-!
Text as UTF-8 bytes.  Decoding fails at the first byte that begins no character, and says which
bytes are at fault.
-/

namespace ApiDocs.Text

/-- Why a sequence of bytes is no UTF-8 text. -/
inductive DecodeReason where
  | invalidStart
  | invalidContinuation
  | unexpectedEnd
deriving DecidableEq, Repr

/-- A decoding fault: the first byte at fault, its position, and how many bytes are at fault. -/
structure DecodeFault where
  byte : UInt8
  position : Nat
  count : Nat
  reason : DecodeReason
deriving DecidableEq, Repr

def DecodeReason.message : DecodeReason → String
  | .invalidStart => "invalid start byte"
  | .invalidContinuation => "invalid continuation byte"
  | .unexpectedEnd => "unexpected end of data"

def DecodeFault.message (fault : DecodeFault) : String :=
  let place :=
    if fault.count ≤ 1 then
      s!"byte 0x{String.ofList (hexDigits 2 fault.byte.toNat)} in position {fault.position}"
    else s!"bytes in position {fault.position}-{fault.position + fault.count - 1}"
  s!"'utf-8' codec can't decode {place}: {fault.reason.message}"

def isContinuation (byte : UInt8) : Bool := byte &&& 0xC0 == 0x80

/-- Whether the second byte can follow the first: it is a continuation, the character has no
shorter form, is no surrogate and no larger than the largest code point. -/
def isSecondByte (first second : UInt8) : Bool :=
  isContinuation second &&
    !(first == 0xE0 && second < 0xA0) && !(first == 0xED && second ≥ 0xA0) &&
    !(first == 0xF0 && second < 0x90) && !(first == 0xF4 && second ≥ 0x90)

def continuationBits (byte : UInt8) : Nat := (byte &&& 0x3F).toNat

/-- The character that the bytes begin with and the number of its bytes after the first, or the
number of bytes at fault and the reason. -/
def decodeFirst (first : UInt8) (rest : List UInt8) : Except (Nat × DecodeReason) (Char × Nat) :=
  if first < 0x80 then .ok (Char.ofNat first.toNat, 0)
  else if first < 0xC2 || first ≥ 0xF5 then .error (1, .invalidStart)
  else
    match rest with
    | [] => .error (1, .unexpectedEnd)
    | second :: rest =>
      if !isSecondByte first second then .error (1, .invalidContinuation)
      else if first < 0xE0 then
        .ok (Char.ofNat ((first &&& 0x1F).toNat * 64 + continuationBits second), 1)
      else
        match rest with
        | [] => .error (2, .unexpectedEnd)
        | third :: rest =>
          if !isContinuation third then .error (2, .invalidContinuation)
          else if first < 0xF0 then
            .ok (Char.ofNat (((first &&& 0x0F).toNat * 64 + continuationBits second) * 64 +
              continuationBits third), 2)
          else
            match rest with
            | [] => .error (3, .unexpectedEnd)
            | fourth :: _ =>
              if !isContinuation fourth then .error (3, .invalidContinuation)
              else
                .ok (Char.ofNat ((((first &&& 0x07).toNat * 64 + continuationBits second) * 64 +
                  continuationBits third) * 64 + continuationBits fourth), 3)

/-- Decoding from a position; `skipped` counts the bytes of the last character still to pass. -/
def decodeFrom (position skipped : Nat) : List UInt8 → Except DecodeFault (List Char)
  | [] => .ok []
  | byte :: rest =>
    match skipped with
    | skipped + 1 => decodeFrom (position + 1) skipped rest
    | 0 =>
      match decodeFirst byte rest with
      | .error (count, reason) => .error { byte, position, count, reason }
      | .ok (character, further) => do
        let characters ← decodeFrom (position + 1) further rest
        return character :: characters

def decode (bytes : List UInt8) : Except DecodeFault (List Char) := decodeFrom 0 0 bytes

def encode (text : List Char) : List UInt8 := text.flatMap String.utf8EncodeChar

end ApiDocs.Text
