import ApiDocs.Number.Double

/-!
The shortest decimal text of a double: of all decimal numbers that round to it, one with the
fewest digits, and of those the nearest.
-/

namespace ApiDocs

/-- A positive decimal number: `0.d₁d₂… * 10 ^ point`. -/
structure Decimal where
  digits : List Char
  point : Int
deriving DecidableEq, Repr

namespace Decimal

/-- The interval of numbers that round to a double, over a common denominator: the lower end, the
value and the upper end. -/
structure Interval where
  low : Nat
  value : Nat
  high : Nat
  denominator : Nat
  closed : Bool

/-- The ends lie half way to the neighbours; below a power of two the neighbour is nearer. -/
def interval (mantissa : Nat) (exponent : Int) : Interval :=
  let narrow := mantissa = Nat.pow 2 (Double.mantissaBits - 1) ∧ Double.leastExponent < exponent
  let unit := Double.scale 2 (exponent - 2) 1 1
  { low := (4 * mantissa - if narrow then 1 else 2) * unit.1
    value := 4 * mantissa * unit.1
    high := (4 * mantissa + 2) * unit.1
    denominator := unit.2
    closed := mantissa % 2 = 0 }

/-- Whether a multiple of a power of ten lies in the interval. -/
def Interval.contains (interval : Interval) (count : Nat) (power : Int) : Bool :=
  let scaled := Double.scale 10 power (count * interval.denominator) 1
  let low := interval.low * scaled.2
  let high := interval.high * scaled.2
  if interval.closed then low ≤ scaled.1 && scaled.1 ≤ high
  else low < scaled.1 && scaled.1 < high

/-- How many places the point has to move to the right before a quotient reaches one, up to a
bound. -/
def leadingZeros : Nat → Nat → Nat → Nat
  | 0, _, _ => 0
  | bound + 1, numerator, denominator =>
    if denominator ≤ numerator then 0
    else leadingZeros bound (numerator * 10) denominator + 1

/-- The position of the point: the value lies below ten to this power, and not below a tenth of
it. -/
def pointOf (interval : Interval) : Int :=
  if interval.denominator ≤ interval.value then
    Double.digitCount (interval.value / interval.denominator)
  else 1 - (leadingZeros 400 interval.value interval.denominator : Int)

def trimZeros (digits : List Char) : List Char := (digits.reverse.dropWhile (· = '0')).reverse

/-- A multiple of a power of ten as a decimal number. -/
def ofCount (count : Nat) (power : Int) : Decimal :=
  let digits := (toString count).toList
  { digits := trimZeros digits, point := power + digits.length }

/-- The neighbour of the value on a grid of multiples of a power of ten that lies in the interval
and is nearest to the value, if one does. -/
def onGrid? (interval : Interval) (power : Int) : Option Decimal :=
  let scaled := Double.scale 10 (-power) interval.value interval.denominator
  let below := scaled.1 / scaled.2
  let remainder := scaled.1 % scaled.2
  let belowFits := below ≠ 0 && interval.contains below power
  let aboveFits := interval.contains (below + 1) power
  let belowNearer :=
    2 * remainder < scaled.2 || (2 * remainder == scaled.2 && below % 2 == 0)
  if belowFits && (belowNearer || !aboveFits) then some (ofCount below power)
  else if aboveFits then some (ofCount (below + 1) power)
  else none

/-- The first grid that holds a number of the interval, from one digit on. -/
def shortestFrom (interval : Interval) (point : Int) : Nat → Nat → Decimal
  | digits, 0 => ofCount (interval.value / interval.denominator) (point - digits)
  | digits, further + 1 =>
    match onGrid? interval (point - digits) with
    | some decimal => decimal
    | none => shortestFrom interval point (digits + 1) further

/-- The shortest decimal number that rounds to a double other than zero. -/
def shortest (mantissa : Nat) (exponent : Int) : Decimal :=
  let around := interval mantissa exponent
  shortestFrom around (pointOf around) 1 17

end Decimal

/-- How a number is written: the positions of the point for which no exponent is used, and
whether an integer keeps its point. -/
structure NumberFormat where
  leastPoint : Int
  greatestPoint : Int
  keepPoint : Bool

/-- Numbers from a ten-thousandth up to sixteen digits before the point are written out. -/
def NumberFormat.standard : NumberFormat :=
  { leastPoint := -3, greatestPoint := 16, keepPoint := true }

/-- As the standard format, but an integer has no point. -/
def NumberFormat.imaginary : NumberFormat := { NumberFormat.standard with keepPoint := false }

namespace Decimal

/-- An exponent has a sign and two digits at least. -/
def exponentText (exponent : Int) : List Char :=
  let digits := (toString exponent.natAbs).toList
  'e' :: (if exponent < 0 then '-' else '+') ::
    (List.replicate (2 - digits.length) '0' ++ digits)

def text (format : NumberFormat) (decimal : Decimal) : List Char :=
  if format.leastPoint ≤ decimal.point ∧ decimal.point ≤ format.greatestPoint then
    if decimal.point ≤ 0 then
      '0' :: '.' :: (List.replicate (-decimal.point).toNat '0' ++ decimal.digits)
    else
      let whole := decimal.point.toNat
      let integer := decimal.digits.take whole ++
        List.replicate (whole - decimal.digits.length) '0'
      let fraction := decimal.digits.drop whole
      if fraction.isEmpty then integer ++ (if format.keepPoint then ['.', '0'] else [])
      else integer ++ '.' :: fraction
  else
    let fraction := decimal.digits.drop 1
    decimal.digits.take 1 ++ (if fraction.isEmpty then [] else '.' :: fraction) ++
      exponentText (decimal.point - 1)

end Decimal

/-- The text of a double. -/
def Double.text (format : NumberFormat) : Double → List Char
  | finite negative mantissa exponent =>
    let body :=
      if mantissa = 0 then '0' :: (if format.keepPoint then ['.', '0'] else [])
      else (Decimal.shortest mantissa exponent).text format
    if negative then '-' :: body else body
  | infinite negative => (if negative then "-inf" else "inf").toList
  | nan => "nan".toList

end ApiDocs
