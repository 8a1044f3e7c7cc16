/-!
Bytes that are written as text, four letters for three bytes.
-/

namespace ApiDocs.Yaml

/-- The six bits that a letter stands for. -/
def sextet? (letter : Char) : Option Nat :=
  if letter.isUpper then some (letter.toNat - 65)
  else if letter.isLower then some (letter.toNat - 71)
  else if letter.isDigit then some (letter.toNat + 4)
  else if letter = '+' then some 62
  else if letter = '/' then some 63
  else none

/-- The bytes of a text from a letter on.  `phase` letters of the group of four have been read,
`left` holds the bits of them that are in no byte yet, and `pads` equal signs stand directly before.
Two equal signs after two letters, or one after three, end the bytes; other characters that are no
letters say nothing. -/
def bytesFrom? (phase left pads : Nat) : List Char → Option (List UInt8)
  | [] => if phase = 0 then some [] else none
  | '=' :: rest =>
    if 2 ≤ phase then
      if 4 ≤ phase + pads + 1 then some [] else bytesFrom? phase left (pads + 1) rest
    else bytesFrom? phase left pads rest
  | letter :: rest =>
    match sextet? letter with
    | none => bytesFrom? phase left pads rest
    | some bits =>
      let emit (byte : Nat) (rest : Option (List UInt8)) : Option (List UInt8) :=
        rest.map (byte.toUInt8 :: ·)
      match phase with
      | 0 => bytesFrom? 1 bits 0 rest
      | 1 => emit (left * 4 + bits / 16) (bytesFrom? 2 (bits % 16) 0 rest)
      | 2 => emit (left * 16 + bits / 4) (bytesFrom? 3 (bits % 4) 0 rest)
      | _ => emit (left * 64 + bits) (bytesFrom? 0 0 0 rest)

/-- The bytes that an ASCII text stands for. -/
def base64? (text : List Char) : Option (List UInt8) :=
  if text.all fun character => character.toNat < 0x80 then bytesFrom? 0 0 0 text else none

end ApiDocs.Yaml
