import ApiDocs.Proofs.Text.Decoding

/-!
# Tokens of a script

A reader of scripts.  It goes through a script character by character and collects words, texts
and other characters; a text is read from its literal as units of UTF-16.  A literal gives the text
back that it was made from, wherever it stands.
-/

namespace ApiDocs.Browser

open ApiDocs.Text

/-- A token of a script: a word or a number, a text, or another character. -/
inductive Token where
  | word (letters : String)
  | text (content : String)
  | mark (character : Char)
deriving DecidableEq, Repr

/-- Where a reader of a script stands: between tokens, in a word, or in a literal, there perhaps
in an escape or its digits, or behind something that it does not read. -/
inductive Lexing where
  | between
  | word (letters : List Char)
  | literal (units : List Nat)
  | escape (units : List Nat)
  | digits (units : List Nat) (value count : Nat)
  | broken
deriving DecidableEq, Repr

namespace Lexing

def isBlank (character : Char) : Bool :=
  character == ' ' || character == '\n' || character == '\r' || character == '\t'

def isWordCharacter (character : Char) : Bool :=
  character.isAlphanum || character == '_' || character == '$'

/-- The unit that a single character stands for behind a backslash. -/
def escaped? : Char → Option Nat
  | '"' => some 0x22
  | '\\' => some 0x5C
  | '/' => some 0x2F
  | 'n' => some 0x0A
  | 'r' => some 0x0D
  | 't' => some 0x09
  | 'f' => some 0x0C
  | 'b' => some 0x08
  | _ => none

/-- The reader after a character that does not belong to the token before it. -/
def start (character : Char) : Lexing × List Token :=
  if character = '"' then (literal [], [])
  else if isBlank character then (between, [])
  else if isWordCharacter character then (word [character], [])
  else (between, [.mark character])

/-- The reader after one character, with the tokens that end there. -/
def next : Lexing → Char → Lexing × List Token
  | between, character => start character
  | word letters, character =>
    if isWordCharacter character then (word (letters ++ [character]), [])
    else ((start character).1, .word (String.ofList letters) :: (start character).2)
  | literal units, character =>
    if character = '"' then
      match ofUnits? units with
      | some content => (between, [.text (String.ofList content)])
      | none => (broken, [])
    else if character = '\\' then (escape units, [])
    else if character.toNat < 0x20 then (broken, [])
    else (literal (units ++ unitsOf character), [])
  | escape units, character =>
    if character = 'u' then (digits units 0 4, [])
    else
      match escaped? character with
      | some unit => (literal (units ++ [unit]), [])
      | none => (broken, [])
  | digits units value count, character =>
    match digitValue? character with
    | some digit =>
      if count = 1 then (literal (units ++ [16 * value + digit]), [])
      else (digits units (16 * value + digit) (count - 1), [])
    | none => (broken, [])
  | broken, _ => (broken, [])

/-- The reader after a script, with the tokens that end in it. -/
def run (lexing : Lexing) : List Char → Lexing × List Token
  | [] => (lexing, [])
  | character :: rest =>
    let step := lexing.next character
    let after := run step.1 rest
    (after.1, step.2 ++ after.2)

theorem run_append (lexing : Lexing) (first second : List Char) :
    lexing.run (first ++ second) =
      (((lexing.run first).1.run second).1,
        (lexing.run first).2 ++ ((lexing.run first).1.run second).2) := by
  induction first generalizing lexing with
  | nil => rfl
  | cons head tail inductionHypothesis =>
      rw [List.cons_append, run, run, inductionHypothesis]
      simp only [List.append_assoc]

theorem run_append_of_eq {lexing middle after : Lexing} {first second : List Char}
    {firstTokens secondTokens : List Token} (reads : lexing.run first = (middle, firstTokens))
    (readsRest : middle.run second = (after, secondTokens)) :
    lexing.run (first ++ second) = (after, firstTokens ++ secondTokens) := by
  rw [run_append, reads, readsRest]

/-! ## Literals -/

theorem run_digit {value digit count : Nat} (isDigit : digit < 16) (units : List Nat) :
    (digits units value (count + 2)).next (hexDigit digit) =
      (digits units (16 * value + digit) (count + 1), []) := by
  rw [next, digitValue?_hexDigit digit isDigit]
  rfl

theorem run_lastDigit {value digit : Nat} (isDigit : digit < 16) (units : List Nat) :
    (digits units value 1).next (hexDigit digit) =
      (literal (units ++ [16 * value + digit]), []) := by
  rw [next, digitValue?_hexDigit digit isDigit]
  rfl

theorem run_escapeUnit {unit : Nat} (isUnit : unit < 0x10000) (units : List Nat) :
    (literal units).run (escapeUnit unit) = (literal (units ++ [unit]), []) := by
  have spelled : escapeUnit unit =
      ['\\', 'u', hexDigit (unit / 16 / 16 / 16 % 16), hexDigit (unit / 16 / 16 % 16),
        hexDigit (unit / 16 % 16), hexDigit (unit % 16)] := rfl
  have opens : (literal units).run ['\\', 'u'] = (digits units 0 4, []) := rfl
  have isDigit (value : Nat) : value % 16 < 16 := Nat.mod_lt value (by decide)
  have value : 16 * (16 * (16 * (16 * 0 + unit / 16 / 16 / 16 % 16) + unit / 16 / 16 % 16) +
      unit / 16 % 16) + unit % 16 = unit := by
    omega
  have closes : (digits units 0 4).run
      [hexDigit (unit / 16 / 16 / 16 % 16), hexDigit (unit / 16 / 16 % 16),
        hexDigit (unit / 16 % 16), hexDigit (unit % 16)] = (literal (units ++ [unit]), []) := by
    simp only [run, run_digit (isDigit _), run_lastDigit (isDigit _), value, List.append_nil]
  exact spelled ▸ run_append_of_eq opens closes

/-- The escaped form of a character is read as the units of the character. -/
theorem run_escapeScriptCharacter (units : List Nat) (character : Char) :
    (literal units).run (escapeScriptCharacter character) =
      (literal (units ++ unitsOf character), []) := by
  unfold escapeScriptCharacter
  split
  · rfl
  · rfl
  · rfl
  · rfl
  · rfl
  · rfl
  · rfl
  · rename_i noQuote noSlash _ _ _ _ _
    dsimp only
    split
    · rename_i isPrintable
      simp only [Bool.and_eq_true, decide_eq_true_eq] at isPrintable
      rw [run, next, if_neg noQuote, if_neg noSlash, if_neg (by omega)]
      rfl
    · rw [unitsOf]
      split
      · exact run_escapeUnit ‹_› units
      · have isValid : character.toNat < 0xD800 ∨
            0xDFFF < character.toNat ∧ character.toNat < 0x110000 :=
          character.valid
        have isHigh : 0xD800 + (character.toNat - 0x10000) / 0x400 < 0x10000 := by omega
        have isLow : 0xDC00 + (character.toNat - 0x10000) % 0x400 < 0x10000 := by omega
        have both := run_append_of_eq (run_escapeUnit isHigh units) (run_escapeUnit isLow _)
        rw [List.append_assoc] at both
        exact both

theorem run_escape (units : List Nat) (text : List Char) :
    (literal units).run (text.flatMap escapeScriptCharacter) =
      (literal (units ++ text.flatMap unitsOf), []) := by
  induction text generalizing units with
  | nil => rw [List.flatMap_nil, List.flatMap_nil, List.append_nil]; rfl
  | cons head tail inductionHypothesis =>
      rw [List.flatMap_cons, List.flatMap_cons, ← List.append_assoc]
      exact run_append_of_eq (run_escapeScriptCharacter units head) (inductionHypothesis _)

/-- A literal is read as the text that it was made from. -/
theorem run_scriptLiteral (text : List Char) :
    between.run (scriptLiteral text) = (between, [.text (String.ofList text)]) := by
  have opens : between.run ['"'] = (literal [], []) := rfl
  have closes : (literal (text.flatMap unitsOf)).run ['"'] =
      (between, [.text (String.ofList text)]) := by
    rw [run, next, if_pos rfl, ofUnits?_flatMap_unitsOf]
    rfl
  exact run_append_of_eq (run_append_of_eq opens (run_escape [] text)) closes

end Lexing

/-- The tokens of a script that leaves no literal open. -/
def tokens? (script : List Char) : Option (List Token) :=
  match Lexing.between.run script with
  | (.between, tokens) => some tokens
  | (.word letters, tokens) => some (tokens ++ [.word (String.ofList letters)])
  | _ => none

end ApiDocs.Browser
