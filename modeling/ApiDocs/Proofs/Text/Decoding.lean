import ApiDocs.Text.Escape

/-!
# Encoded texts are read back

Readers for the two encodings that a text is given in: percent forms of UTF-8 bytes in an address,
and units of UTF-16 in a script literal.  Either gives the encoded text back.
-/

namespace ApiDocs.Text

/-! ## Hexadecimal digits -/

def digitValue? (character : Char) : Option Nat :=
  if '0' ≤ character ∧ character ≤ '9' then some (character.toNat - 48)
  else if 'a' ≤ character ∧ character ≤ 'f' then some (character.toNat - 87)
  else if 'A' ≤ character ∧ character ≤ 'F' then some (character.toNat - 55)
  else none

theorem digitValue?_hexDigit :
    ∀ digit < 16, digitValue? (hexDigit digit) = some digit := by
  decide

theorem digitValue?_toUpper_hexDigit :
    ∀ digit < 16, digitValue? (hexDigit digit).toUpper = some digit := by
  decide

/-! ## Percent forms -/

/-- The bytes that an address stands for: percent forms are read as bytes, and other characters,
which are ASCII, stand for themselves. -/
def percentBytes? : List Char → Option (List UInt8)
  | '%' :: high :: low :: rest =>
    match digitValue? high, digitValue? low with
    | some high, some low => (percentBytes? rest).map (UInt8.ofNat (16 * high + low) :: ·)
    | _, _ => none
  | character :: rest =>
    if character = '%' ∨ 0x80 ≤ character.toNat then none
    else (percentBytes? rest).map (UInt8.ofNat character.toNat :: ·)
  | [] => some []

/-- The text that an address stands for. -/
def percentDecode? (address : List Char) : Option (List Char) :=
  (percentBytes? address).bind fun bytes => bytes.toByteArray.utf8Decode?.map Array.toList

theorem percentBytes?_cons {character : Char} (noPercent : character ≠ '%')
    (isAscii : character.toNat < 0x80) (rest : List Char) :
    percentBytes? (character :: rest) =
      (percentBytes? rest).map (UInt8.ofNat character.toNat :: ·) := by
  have condition : ¬ (character = '%' ∨ 0x80 ≤ character.toNat) :=
    not_or.mpr ⟨noPercent, Nat.not_le.mpr isAscii⟩
  rw [percentBytes?.eq_def]
  split
  · rename_i same
    exact absurd (List.cons.inj same).1 noPercent
  · rename_i same
    cases same
    exact if_neg condition
  · rename_i same
    cases same

theorem percentBytes?_percentByte (byte : UInt8) (rest : List Char) :
    percentBytes? (percentByte byte ++ rest) = (percentBytes? rest).map (byte :: ·) := by
  have digits : percentByte byte ++ rest =
      '%' :: (hexDigit (byte.toNat / 16 % 16)).toUpper ::
        (hexDigit (byte.toNat % 16)).toUpper :: rest := rfl
  have isByte : byte.toNat < 256 := byte.toNat_lt
  have value : UInt8.ofNat (16 * (byte.toNat / 16 % 16) + byte.toNat % 16) = byte := by
    have same : 16 * (byte.toNat / 16 % 16) + byte.toNat % 16 = byte.toNat := by omega
    rw [same, UInt8.ofNat_toNat]
  rw [digits, percentBytes?, digitValue?_toUpper_hexDigit _ (Nat.mod_lt _ (by decide)),
    digitValue?_toUpper_hexDigit _ (Nat.mod_lt _ (by decide))]
  dsimp only
  rw [value]

theorem percentBytes?_flatMap_percentByte (bytes : List UInt8) (rest : List Char) :
    percentBytes? (bytes.flatMap percentByte ++ rest) = (percentBytes? rest).map (bytes ++ ·) := by
  induction bytes with
  | nil => simp
  | cons byte bytes inductionHypothesis =>
      rw [List.flatMap_cons, List.append_assoc, percentBytes?_percentByte, inductionHypothesis,
        Option.map_map]
      rfl

theorem toNat_of_isAlphanum {character : Char} (isAlphanum : character.isAlphanum = true) :
    48 ≤ character.toNat ∧ character.toNat ≤ 122 := by
  rcases (Bool.or_eq_true _ _).mp isAlphanum with isAlpha | isDigit
  · rcases (Bool.or_eq_true _ _).mp isAlpha with isUpper | isLower
    · obtain ⟨atLeast, atMost⟩ : 'A'.val ≤ character.val ∧ character.val ≤ 'Z'.val :=
        of_decide_eq_true isUpper
      exact ⟨Nat.le_trans (by decide) (UInt32.le_iff_toNat_le.mp atLeast),
        Nat.le_trans (UInt32.le_iff_toNat_le.mp atMost) (by decide)⟩
    · obtain ⟨atLeast, atMost⟩ := (Bool.and_eq_true _ _).mp isLower
      exact ⟨Nat.le_trans (by decide) (UInt32.le_iff_toNat_le.mp (of_decide_eq_true atLeast)),
        UInt32.le_iff_toNat_le.mp (of_decide_eq_true atMost)⟩
  · obtain ⟨atLeast, atMost⟩ := (Bool.and_eq_true _ _).mp isDigit
    exact ⟨UInt32.le_iff_toNat_le.mp (of_decide_eq_true atLeast),
      Nat.le_trans (UInt32.le_iff_toNat_le.mp (of_decide_eq_true atMost)) (by decide)⟩

/-- A character that is not reserved is ASCII. -/
theorem isAscii_of_isUnreserved {character : Char} (unreserved : isUnreserved character = true) :
    character ≠ '%' ∧ character.toNat < 0x80 := by
  have bounds : 45 ≤ character.toNat ∧ character.toNat ≤ 126 := by
    simp only [isUnreserved, Bool.or_eq_true, beq_iff_eq] at unreserved
    rcases unreserved with (((isAlphanum | rfl) | rfl) | rfl) | rfl
    · have := toNat_of_isAlphanum isAlphanum
      omega
    · decide
    · decide
    · decide
    · decide
  refine ⟨?_, by omega⟩
  rintro rfl
  exact absurd bounds.1 (by decide)

theorem utf8EncodeChar_of_isAscii {character : Char} (isAscii : character.toNat < 0x80) :
    String.utf8EncodeChar character = [UInt8.ofNat character.toNat] := by
  have isShort : character.val.toNat ≤ 127 := Nat.le_of_lt_succ isAscii
  rw [String.utf8EncodeChar]
  exact if_pos isShort

/-- The percent forms of a text stand for its UTF-8 bytes. -/
theorem percentBytes?_percentEncode (text : List Char) :
    percentBytes? (percentEncode text) = some (text.flatMap String.utf8EncodeChar) := by
  induction text with
  | nil => rfl
  | cons head tail inductionHypothesis =>
      rw [percentEncode, List.flatMap_cons, List.flatMap_cons]
      rw [percentEncode] at inductionHypothesis
      by_cases unreserved : isUnreserved head = true
      · obtain ⟨noPercent, isAscii⟩ := isAscii_of_isUnreserved unreserved
        rw [if_pos unreserved, List.singleton_append, percentBytes?_cons noPercent isAscii,
          inductionHypothesis, utf8EncodeChar_of_isAscii isAscii]
        rfl
      · rw [if_neg unreserved, percentBytes?_flatMap_percentByte, inductionHypothesis]
        rfl

/-- Percent encoding is undone by percent decoding. -/
theorem percentDecode?_percentEncode (text : List Char) :
    percentDecode? (percentEncode text) = some text := by
  rw [percentDecode?, percentBytes?_percentEncode]
  have decodes : text.utf8Encode.utf8Decode? = some text.toArray := List.utf8Decode?_utf8Encode
  rw [List.utf8Encode] at decodes
  simp [decodes]

/-! ## Units of UTF-16 -/

/-- The units of a character. -/
def unitsOf (character : Char) : List Nat :=
  if character.toNat < 0x10000 then [character.toNat]
  else
    [0xD800 + (character.toNat - 0x10000) / 0x400, 0xDC00 + (character.toNat - 0x10000) % 0x400]

def IsHighSurrogate (unit : Nat) : Prop := 0xD800 ≤ unit ∧ unit < 0xDC00

def IsLowSurrogate (unit : Nat) : Prop := 0xDC00 ≤ unit ∧ unit < 0xE000

instance (unit : Nat) : Decidable (IsHighSurrogate unit) :=
  inferInstanceAs (Decidable (_ ∧ _))

instance (unit : Nat) : Decidable (IsLowSurrogate unit) :=
  inferInstanceAs (Decidable (_ ∧ _))

/-- The text of units.  A surrogate without its counterpart is no text. -/
def ofUnits? : List Nat → Option (List Char)
  | [] => some []
  | [unit] => if IsHighSurrogate unit ∨ IsLowSurrogate unit then none else some [Char.ofNat unit]
  | unit :: next :: rest =>
    if IsHighSurrogate unit ∧ IsLowSurrogate next then
      (ofUnits? rest).map
        (Char.ofNat (0x10000 + 0x400 * (unit - 0xD800) + (next - 0xDC00)) :: ·)
    else if IsHighSurrogate unit ∨ IsLowSurrogate unit then none
    else (ofUnits? (next :: rest)).map (Char.ofNat unit :: ·)

theorem ofUnits?_unitsOf (character : Char) (rest : List Nat) :
    ofUnits? (unitsOf character ++ rest) = (ofUnits? rest).map (character :: ·) := by
  have valid : character.toNat < 0xD800 ∨ 0xDFFF < character.toNat ∧ character.toNat < 0x110000 :=
    character.valid
  rw [unitsOf]
  by_cases isSingle : character.toNat < 0x10000
  · have noHigh : ¬ IsHighSurrogate character.toNat := fun isHigh => by
      rw [IsHighSurrogate] at isHigh
      omega
    have noLow : ¬ IsLowSurrogate character.toNat := fun isLow => by
      rw [IsLowSurrogate] at isLow
      omega
    rw [if_pos isSingle, List.singleton_append]
    cases rest with
    | nil =>
        have single : ofUnits? [character.toNat] = some [Char.ofNat character.toNat] :=
          if_neg (not_or.mpr ⟨noHigh, noLow⟩)
        rw [single, Char.ofNat_toNat]
        rfl
    | cons next rest =>
        rw [ofUnits?, if_neg fun both => noHigh both.1, if_neg (not_or.mpr ⟨noHigh, noLow⟩),
          Char.ofNat_toNat]
  · have value : 0x10000 + 0x400 * (0xD800 + (character.toNat - 0x10000) / 0x400 - 0xD800) +
        (0xDC00 + (character.toNat - 0x10000) % 0x400 - 0xDC00) = character.toNat := by
      omega
    rw [if_neg isSingle, List.cons_append, List.singleton_append, ofUnits?, if_pos, value,
      Char.ofNat_toNat]
    rw [IsHighSurrogate, IsLowSurrogate]
    omega

theorem ofUnits?_flatMap_unitsOf (text : List Char) :
    ofUnits? (text.flatMap unitsOf) = some text := by
  induction text with
  | nil => rfl
  | cons head tail inductionHypothesis =>
      rw [List.flatMap_cons, ofUnits?_unitsOf, inductionHypothesis]
      rfl

end ApiDocs.Text
