/-!
Limits of the machine that a program runs on.
-/

namespace ApiDocs

/-- What is nested too deeply exhausts the stack, while something is done with it, or the
memory.  Integers are not written with too many digits. -/
inductive Exhaustion where
  | stack (activity : String)
  | memory
  | digits
deriving DecidableEq, Repr

/-- The greatest number of decimal digits of an integer that is read or written. -/
def greatestDigitCount : Nat := 4300

def Exhaustion.message : Exhaustion → String
  | stack "" => "maximum recursion depth exceeded"
  | stack activity => s!"maximum recursion depth exceeded {activity}"
  | memory => ""
  | digits =>
    s!"Exceeds the limit ({greatestDigitCount} digits) for integer string conversion; " ++
      "use sys.set_int_max_str_digits() to increase the limit"

end ApiDocs
