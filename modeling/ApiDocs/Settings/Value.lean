import ApiDocs.Exhaustion
import ApiDocs.Files.Path
import ApiDocs.Number.Shortest
import ApiDocs.Text.Quoted

/-!
Values of settings as they are given: on a command line, by a program, or in a configuration file.
Each has a literal form, which names its type, and a plain text.
-/

namespace ApiDocs

/-- A day of the calendar. -/
structure Date where
  year : Nat
  month : Nat
  day : Nat
deriving DecidableEq, Repr

/-- A day and a time, with the offset from universal time in seconds where one is given. -/
structure Moment where
  date : Date
  hour : Nat
  minute : Nat
  second : Nat
  microsecond : Nat
  offset : Option Int
deriving DecidableEq, Repr

/-- A value of a setting. -/
inductive Value where
  | null
  | boolean (value : Bool)
  | integer (value : Int)
  | double (value : Double)
  | text (value : String)
  | bytes (value : List UInt8)
  | date (value : Date)
  | moment (value : Moment)
  | path (value : Path)
  | list (items : List Value)
  | tuple (items : List Value)
  | mapping (pairs : List (Value × Value))
  | set (items : List Value)
  /-- A list or mapping that this value stands in. -/
  | enclosing (isMapping : Bool)
deriving Inhabited

namespace Date

/-- Digits of a number, filled up with zeros. -/
def padded (width value : Nat) : String :=
  let digits := toString value
  String.ofList (List.replicate (width - digits.length) '0') ++ digits

def text (date : Date) : String :=
  s!"{padded 4 date.year}-{padded 2 date.month}-{padded 2 date.day}"

def literal (date : Date) : String := s!"datetime.date({date.year}, {date.month}, {date.day})"

end Date

namespace Moment

/-- The literal form of a span of time in seconds: whole days and what is left. -/
def spanLiteral (span : Int) : String :=
  let days := span.fdiv 86400
  let seconds := span.fmod 86400
  let day := if days = 0 then "" else s!"days={days}"
  let rest := if seconds = 0 then "" else s!"seconds={seconds}"
  let separator := if days = 0 || seconds = 0 then "" else ", "
  s!"datetime.timedelta({day}{separator}{rest})"

def offsetLiteral (offset : Int) : String :=
  if offset = 0 then "datetime.timezone.utc" else s!"datetime.timezone({spanLiteral offset})"

def literal (moment : Moment) : String :=
  let seconds :=
    if moment.microsecond ≠ 0 then s!", {moment.second}, {moment.microsecond}"
    else if moment.second ≠ 0 then s!", {moment.second}"
    else ""
  let zone :=
    match moment.offset with
    | none => ""
    | some offset => ", tzinfo=" ++ offsetLiteral offset
  s!"datetime.datetime({moment.date.year}, {moment.date.month}, {moment.date.day}, " ++
    s!"{moment.hour}, {moment.minute}{seconds}{zone})"

/-- The days before the first of March of a year, counted from a March before all years, so that a
leap day ends its year. -/
def daysBeforeMarch (year : Nat) : Nat := 365 * year + year / 4 - year / 100 + year / 400

/-- The number of a day, counted on without a gap. -/
def dayNumber (date : Date) : Nat :=
  let (year, month) :=
    if date.month ≤ 2 then (date.year - 1, date.month + 9) else (date.year, date.month - 3)
  daysBeforeMarch year + (153 * month + 2) / 5 + date.day

/-- The microseconds of universal time, where the offset is known. -/
def universal? (moment : Moment) : Option Int :=
  moment.offset.map fun offset =>
    let minutes := (dayNumber moment.date * 24 + moment.hour) * 60 + moment.minute
    ((minutes * 60 + moment.second : Nat) - offset) * 1000000 + moment.microsecond

def offsetText (offset : Int) : String :=
  let size := offset.natAbs
  let sign := if offset < 0 then "-" else "+"
  let seconds := if size % 60 = 0 then "" else ":" ++ Date.padded 2 (size % 60)
  s!"{sign}{Date.padded 2 (size / 3600)}:{Date.padded 2 (size / 60 % 60)}{seconds}"

def text (moment : Moment) : String :=
  let fraction :=
    if moment.microsecond = 0 then "" else "." ++ Date.padded 6 moment.microsecond
  let zone :=
    match moment.offset with
    | none => ""
    | some offset => offsetText offset
  let hour := Date.padded 2 moment.hour
  let minute := Date.padded 2 moment.minute
  let second := Date.padded 2 moment.second
  s!"{moment.date.text} {hour}:{minute}:{second}{fraction}{zone}"

end Moment

namespace Value

def quote (text : String) : String := String.ofList (Text.quoted text.toList)

mutual

/-- The literal form of a value. -/
def literal : Value → String
  | null => "None"
  | boolean true => "True"
  | boolean false => "False"
  | integer value => toString value
  | double value => String.ofList (value.text .standard)
  | text value => quote value
  | bytes value => String.ofList (Text.quotedBytes value)
  | date value => value.literal
  | moment value => value.literal
  | path value => "PosixPath(" ++ quote value.text ++ ")"
  | list items => "[" ++ ", ".intercalate (literals items) ++ "]"
  | tuple items =>
    match literals items with
    | [item] => "(" ++ item ++ ",)"
    | items => "(" ++ ", ".intercalate items ++ ")"
  | mapping pairs => "\x7b" ++ ", ".intercalate (pairLiterals pairs) ++ "\x7d"
  | set items =>
    match literals items with
    | [] => "set()"
    | items => "\x7b" ++ ", ".intercalate items ++ "\x7d"
  | enclosing isMapping => if isMapping then "\x7b...\x7d" else "[...]"

def literals : List Value → List String
  | [] => []
  | item :: items => literal item :: literals items

def pairLiterals : List (Value × Value) → List String
  | [] => []
  | (key, value) :: pairs => (literal key ++ ": " ++ literal value) :: pairLiterals pairs

end

/-- The plain text of a value: a text stands for itself. -/
def plain : Value → String
  | text value => value
  | path value => value.text
  | date value => value.text
  | moment value => value.text
  | value => value.literal

/-- The integers of more digits begin here. -/
def firstUnwritten : Nat := Nat.pow 10 greatestDigitCount

mutual

/-- What is exhausted while a value is written, with room for so many levels inside of it. -/
def exhaustsWithin? (room : Nat) : Value → Option Exhaustion
  | integer value => if firstUnwritten ≤ value.natAbs then some .digits else none
  | list items => itemsExhaust? room items
  | tuple items => itemsExhaust? room items
  | set items => itemsExhaust? room items
  | mapping pairs => pairsExhaust? room pairs
  | _ => none

def itemsExhaust? (room : Nat) : List Value → Option Exhaustion
  | [] => none
  | item :: items =>
    match room with
    | 0 => some (.stack "while getting the repr of an object")
    | room + 1 => (exhaustsWithin? room item).or (itemsExhaust? (room + 1) items)

def pairsExhaust? (room : Nat) : List (Value × Value) → Option Exhaustion
  | [] => none
  | (key, value) :: pairs =>
    match room with
    | 0 => some (.stack "while getting the repr of an object")
    | room + 1 =>
      ((exhaustsWithin? room key).or (exhaustsWithin? room value)).or
        (pairsExhaust? (room + 1) pairs)

end

/-- Whether a value says anything: nothing, false, zero and what is empty do not. -/
def isTrue : Value → Bool
  | null => false
  | boolean value => value
  | integer value => value ≠ 0
  | double (.finite _ mantissa _) => mantissa ≠ 0
  | text value => value ≠ ""
  | bytes value => !value.isEmpty
  | list items => !items.isEmpty
  | tuple items => !items.isEmpty
  | mapping pairs => !pairs.isEmpty
  | set items => !items.isEmpty
  | _ => true

/-- The name of the type of a value. -/
def typeName : Value → String
  | null => "NoneType"
  | boolean _ => "bool"
  | integer _ => "int"
  | double _ => "float"
  | text _ => "str"
  | bytes _ => "bytes"
  | date _ => "datetime.date"
  | moment _ => "datetime.datetime"
  | path _ => "PosixPath"
  | list _ => "list"
  | tuple _ => "tuple"
  | mapping _ => "dict"
  | set _ => "set"
  | enclosing isMapping => if isMapping then "dict" else "list"

end Value

end ApiDocs
