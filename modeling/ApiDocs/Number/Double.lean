/-!
Binary floating-point numbers of double width, as exact values: a sign, a mantissa and a power of
two.  A quotient of natural numbers is rounded to the nearest of them, a tie to the even mantissa.
-/

namespace ApiDocs

/-- A double: `mantissa * 2 ^ exponent` with a sign, an infinity, or no number. -/
inductive Double where
  | finite (negative : Bool) (mantissa : Nat) (exponent : Int)
  | infinite (negative : Bool)
  | nan
deriving DecidableEq, Repr

namespace Double

/-- The mantissa of a normal number has this many bits. -/
def mantissaBits : Nat := 53

def leastExponent : Int := -1074

def greatestExponent : Int := 971

def zero (negative : Bool) : Double := finite negative 0 leastExponent

/-- Multiplies a numerator or a denominator so that the quotient is scaled by a power. -/
def scale (base : Nat) (power : Int) (numerator denominator : Nat) : Nat × Nat :=
  if 0 ≤ power then (numerator * base.pow power.toNat, denominator)
  else (numerator, denominator * base.pow (-power).toNat)

/-- The nearest integer to a quotient; a tie goes to the even one. -/
def roundQuotient (numerator denominator : Nat) : Nat :=
  let quotient := numerator / denominator
  let remainder := numerator % denominator
  if 2 * remainder < denominator then quotient
  else if denominator < 2 * remainder then quotient + 1
  else quotient + quotient % 2

/-- The exponent with which the quotient has a mantissa of full width, or the least one. -/
def exponentFor (numerator denominator : Nat) : Int :=
  let estimate : Int := (numerator.log2 : Int) - denominator.log2 - mantissaBits
  let scaled := scale 2 (-(estimate + 1)) numerator denominator
  let isFull := Nat.pow 2 (mantissaBits - 1) * scaled.2 ≤ scaled.1
  max (if isFull then estimate + 1 else estimate) leastExponent

/-- The double nearest to a quotient; beyond the largest it is infinite. -/
def ofQuotient (negative : Bool) (numerator denominator : Nat) : Double :=
  if numerator = 0 then zero negative
  else
    let exponent := exponentFor numerator denominator
    let scaled := scale 2 (-exponent) numerator denominator
    let mantissa := roundQuotient scaled.1 scaled.2
    let carried := mantissa = Nat.pow 2 mantissaBits
    let mantissa := if carried then mantissa / 2 else mantissa
    let exponent := if carried then exponent + 1 else exponent
    if greatestExponent < exponent then infinite negative
    else finite negative mantissa exponent

def digitCount (value : Nat) : Nat := (toString value).length

/-- The double nearest to a decimal number.  Numbers of a size far beyond all doubles are not
computed exactly first. -/
def ofDecimal (negative : Bool) (digits : Nat) (power : Int) : Double :=
  if digits = 0 then zero negative
  else
    let size := (digitCount digits : Int) + power
    if 400 < size then infinite negative
    else if size < -400 then zero negative
    else
      let scaled := scale 10 power digits 1
      ofQuotient negative scaled.1 scaled.2

/-- The absolute value as a quotient. -/
def quotient (mantissa : Nat) (exponent : Int) : Nat × Nat := scale 2 exponent mantissa 1

/-- The double nearest to a quotient with a sign. -/
def ofSigned (numerator : Int) (denominator : Nat) : Double :=
  ofQuotient (numerator < 0) numerator.natAbs denominator

def signed (negative : Bool) (value : Nat) : Int := if negative then -(value : Int) else value

/-- The sum of two doubles, rounded. -/
def add : Double → Double → Double
  | finite negative mantissa exponent, finite negative' mantissa' exponent' =>
    let left := quotient mantissa exponent
    let right := quotient mantissa' exponent'
    ofSigned (signed negative left.1 * right.2 + signed negative' right.1 * left.2)
      (left.2 * right.2)
  | nan, _ => nan
  | _, nan => nan
  | infinite negative, infinite negative' => if negative = negative' then infinite negative else nan
  | infinite negative, _ => infinite negative
  | _, infinite negative => infinite negative

/-- A double times a natural number, rounded. -/
def mulNat : Double → Nat → Double
  | finite negative mantissa exponent, factor =>
    let left := quotient mantissa exponent
    ofQuotient negative (left.1 * factor) left.2
  | infinite negative, _ => infinite negative
  | nan, _ => nan

def negate : Double → Double
  | finite negative mantissa exponent => finite (!negative) mantissa exponent
  | infinite negative => infinite (!negative)
  | nan => nan

end Double

end ApiDocs
