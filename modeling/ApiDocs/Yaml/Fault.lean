import ApiDocs.Exhaustion
import ApiDocs.Text.Utf8
import ApiDocs.Yaml.Number
import ApiDocs.Yaml.Timestamp

/-!
What a document can be refused for.
-/

namespace ApiDocs.Yaml

/-- Why a text has no value. -/
inductive Fault where
  /-- The text is no document, or a node is not what its tag says. -/
  | malformed
  /-- The bytes are not UTF-8. -/
  | undecodable (fault : Text.DecodeFault)
  /-- No character has this number. -/
  | noCharacter (codePoint : Nat)
  | notBoolean (word : String)
  | number (fault : NumberFault)
  | notTimestamp
  | calendar (fault : Timestamp.Fault)
  /-- Collections are nested too deeply. -/
  | exhausted (exhaustion : Exhaustion)
  /-- A failure of another sort, which `kind` names. -/
  | other (kind message : String)
deriving DecidableEq, Repr

def quote (text : List Char) : String := String.ofList (Text.quoted text)

def NumberFault.message : NumberFault → String
  | empty => "string index out of range"
  | notInteger base word => s!"invalid literal for int() with base {base}: {quote word}"
  | notDouble word => s!"could not convert string to float: {quote word}"
  | tooManyDigits count =>
    s!"Exceeds the limit ({greatestDigitCount} digits) for integer string conversion: " ++
      s!"value has {count} digits; use sys.set_int_max_str_digits() to increase the limit"
  | tooLarge => "int too large to convert to float"

/-- Numbers of characters are machine words. -/
def wordLimit : Nat := Nat.pow 2 31

def Fault.message : Fault → String
  | malformed => "the document is not well formed"
  | undecodable fault => fault.message
  | noCharacter codePoint =>
    if codePoint < wordLimit then "chr() arg not in range(0x110000)"
    else "Python int too large to convert to C int"
  | notBoolean word => quote word.toList
  | number fault => fault.message
  | notTimestamp => "'NoneType' object has no attribute 'groupdict'"
  | calendar fault => fault.message
  | exhausted exhaustion => exhaustion.message
  | other _ message => message

end ApiDocs.Yaml
