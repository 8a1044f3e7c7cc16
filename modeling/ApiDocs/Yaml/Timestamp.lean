import ApiDocs.Settings.Value
import ApiDocs.Text.Normal

/-!
Days and moments in YAML documents.
-/

namespace ApiDocs.Yaml

/-- A time as it is written.  The offset from universal time is in minutes. -/
structure WrittenTime where
  hour : Nat
  minute : Nat
  second : Nat
  fraction : List Char
  offset : Option Int

/-- A day as it is written, with the time if there is one.  It need not exist. -/
structure Timestamp where
  date : Date
  time : Option WrittenTime

namespace Timestamp

/-! ## Reading -/

/-- A number of so many digits. -/
def number? (least most : Nat) (text : List Char) : Option (Nat × List Char) :=
  let digits := (text.take most).takeWhile Char.isDigit
  if digits.length < least then none
  else some (Text.numberOfDigits 10 digits, text.drop digits.length)

def after? (mark : Char) (text : List Char) : Option (List Char) :=
  if text.head? == some mark then some (text.drop 1) else none

def isSpaceOrTab (character : Char) : Bool := character == ' ' || character == '\t'

/-- An offset from universal time, which ends the text. -/
def offset? (text : List Char) : Option (Option Int) :=
  match text with
  | [] => some none
  | _ =>
    match text.dropWhile isSpaceOrTab with
    | ['Z'] => some (some 0)
    | sign :: rest => do
      if sign ≠ '+' ∧ sign ≠ '-' then none
      else
        let (hours, rest) ← number? 1 2 rest
        let (minutes, rest) ←
          if rest.isEmpty then some (0, []) else after? ':' rest >>= number? 2 2
        let size : Int := hours * 60 + minutes
        if rest.isEmpty then some (some (if sign = '-' then -size else size)) else none
    | [] => none

/-- A time after the mark or the white space that separates it from the day. -/
def time? (text : List Char) : Option WrittenTime := do
  let rest ←
    match text with
    | 'T' :: rest => some rest
    | 't' :: rest => some rest
    | _ => if text.head?.any isSpaceOrTab then some (text.dropWhile isSpaceOrTab) else none
  let (hour, rest) ← number? 1 2 rest
  let (minute, rest) ← after? ':' rest >>= number? 2 2
  let (second, rest) ← after? ':' rest >>= number? 2 2
  let (fraction, rest) :=
    match rest with
    | '.' :: rest => (rest.takeWhile Char.isDigit, rest.dropWhile Char.isDigit)
    | _ => ([], rest)
  let offset ← offset? rest
  return { hour, minute, second, fraction, offset }

def ofText? (text : List Char) : Option Timestamp := do
  let (year, rest) ← number? 4 4 text
  let (month, rest) ← after? '-' rest >>= number? 1 2
  let (day, rest) ← after? '-' rest >>= number? 1 2
  let time ← if rest.isEmpty then some none else some <$> time? rest
  return { date := { year, month, day }, time }

/-- The length of a day that is written with all its digits. -/
def dateLength : Nat := 10

/-- Whether a plain word is a day or a moment.  A day without a time has all its digits. -/
def isTimestamp (text : List Char) : Bool :=
  match ofText? text with
  | some timestamp => timestamp.time.isSome || text.length = dateLength
  | none => false

/-! ## The calendar -/

/-- Why a written day or time does not exist. -/
inductive Fault where
  | year (year : Nat)
  | month
  | day
  | hour
  | minute
  | second
  | offset (seconds : Int)
deriving DecidableEq, Repr

def Fault.message : Fault → String
  | .year given => s!"year {given} is out of range"
  | .month => "month must be in 1..12"
  | .day => "day is out of range for month"
  | .hour => "hour must be in 0..23"
  | .minute => "minute must be in 0..59"
  | .second => "second must be in 0..59"
  | .offset seconds =>
    "offset must be a timedelta strictly between -timedelta(hours=24) and timedelta(hours=24), " ++
      s!"not {Moment.spanLiteral seconds}."

def isLeapYear (year : Nat) : Bool := year % 4 = 0 && (year % 100 ≠ 0 || year % 400 = 0)

def daysInMonth (year month : Nat) : Nat :=
  if month = 2 then if isLeapYear year then 29 else 28
  else if [4, 6, 9, 11].contains month then 30
  else 31

def checkDate (date : Date) : Except Fault Unit :=
  if date.year = 0 then .error (.year date.year)
  else if date.month = 0 ∨ 12 < date.month then .error .month
  else if date.day = 0 ∨ daysInMonth date.year date.month < date.day then .error .day
  else .ok ()

def checkTime (time : WrittenTime) : Except Fault Unit :=
  if 23 < time.hour then .error .hour
  else if 59 < time.minute then .error .minute
  else if 59 < time.second then .error .second
  else .ok ()

/-- A fraction of a second in microseconds: its first six digits. -/
def microseconds (fraction : List Char) : Nat :=
  Text.numberOfDigits 10 ((fraction ++ List.replicate 6 '0').take 6)

/-- The day or moment that is meant, if it exists. -/
def value (timestamp : Timestamp) : Except Fault Value :=
  match timestamp.time with
  | none => do
    checkDate timestamp.date
    return .date timestamp.date
  | some time => do
    let offset := time.offset.map (· * 60)
    if let some seconds := offset then
      if 86400 ≤ seconds.natAbs then throw (.offset seconds)
    checkDate timestamp.date
    checkTime time
    return .moment
      { date := timestamp.date
        hour := time.hour
        minute := time.minute
        second := time.second
        microsecond := microseconds time.fraction
        offset }

end Timestamp

end ApiDocs.Yaml
