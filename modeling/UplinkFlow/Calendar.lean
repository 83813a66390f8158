import UplinkFlow.Text.Utf8

/-!
# Calendar times

`Calendar.readInstant` reads a time in the form of RFC 3339 (`2024-01-31T23:59:59.25+05:30`) from
left to right and gives the nanoseconds since 1970, or the first fault met.

* A text shorter than date and time of day is refused before anything else.  The date is checked
  when it has been read, the time of day when its fraction has been read too.
* The letter `T` may be small or a space, a leap second is the first second of the next minute,
  and digits beyond nanoseconds are dropped.
* The offset is `Z`, or a sign with hours and minutes; its minus sign may be U+2212.
-/

set_option autoImplicit false

namespace UplinkFlow.Calendar

/-- Why a text is no calendar time. -/
inductive Fault where
  | invalid
  | tooShort
  | tooLong
  | outOfRange
deriving DecidableEq, Repr

def Fault.message : Fault → String
  | .invalid => "input contains invalid characters"
  | .tooShort => "premature end of input"
  | .tooLong => "trailing input"
  | .outOfRange => "input is out of range"

/-- Reads from the front of a text. -/
abbrev Scan (α : Type) := StateT (List UInt8) (Except Fault) α

def digit? (b : UInt8) : Option Nat :=
  if 48 ≤ b.toNat ∧ b.toNat ≤ 57 then some (b.toNat - 48) else none

/-- The value of digits; other bytes count as zero. -/
def digitsValue (bytes : List UInt8) : Nat :=
  bytes.foldl (fun acc b => acc * 10 + (digit? b).getD 0) 0

/-- Reads exactly `count` digits. -/
def number (count : Nat) : Scan Nat := do
  let bytes ← get
  if bytes.length < count then throw .tooShort
  let front := bytes.take count
  if front.all (fun b => (digit? b).isSome) then
    set (bytes.drop count)
    pure (digitsValue front)
  else throw .invalid

def oneOf (allowed : List UInt8) : Scan Unit := do
  match ← get with
  | [] => throw .tooShort
  | b :: rest => if allowed.contains b then set rest else throw .invalid

/-- Reads the fraction of a second behind a point, in nanoseconds. -/
def fraction : Scan Nat := do
  match ← get with
  | 46 :: rest =>
    let ds := rest.takeWhile fun b => (digit? b).isSome
    match ds, rest with
    | [], [] => throw .tooShort
    | [], _ :: _ => throw .invalid
    | _ :: _, _ =>
      set (rest.dropWhile fun b => (digit? b).isSome)
      let kept := ds.take 9
      pure (digitsValue kept * Nat.pow 10 (9 - kept.length))
  | _ => pure 0

/-- Goes on only if a condition holds of the values read so far. -/
def require (condition : Bool) : Scan Unit := if condition then pure () else throw .outOfRange

/-- Reads an offset from universal time, in seconds. -/
def offset : Scan Int := do
  let signed (negative : Bool) (rest : List UInt8) : Scan Int := do
    set rest
    let hours ← number 2
    oneOf [58]
    let minutes ← number 2
    require (minutes ≤ 59)
    let seconds : Int := hours * 3600 + minutes * 60
    pure (if negative then -seconds else seconds)
  match ← get with
  | [] => throw .tooShort
  | 90 :: rest | 122 :: rest => set rest; pure 0
  | 43 :: rest => signed false rest
  | 45 :: rest => signed true rest
  | 0xe2 :: 0x88 :: 0x92 :: rest => signed true rest
  | _ => throw .invalid

/-- Whether a year of the Gregorian calendar has a 29th of February. -/
def isLeap (year : Nat) : Bool := year % 4 == 0 && (year % 100 != 0 || year % 400 == 0)

/-- The days of the months of a year. -/
def monthLengths (year : Nat) : List Nat :=
  [31, if isLeap year then 29 else 28, 31, 30, 31, 30, 31, 31, 30, 31, 30, 31]

/-- The days from the beginning of the year 0 to that of another. -/
def daysBeforeYear (year : Nat) : Nat :=
  365 * year + (year + 3) / 4 - (year + 99) / 100 + (year + 399) / 400

/-- The days from 1970 to a date. -/
def daysSinceEpoch (year month day : Nat) : Int :=
  (daysBeforeYear year + ((monthLengths year).take (month - 1)).foldr (· + ·) 0 + (day - 1) : Nat) -
    (daysBeforeYear 1970 : Nat)

/-- The number of bytes of a date and a time of day without a fraction. -/
def fixedLength : Nat := 19

/-- Reads a date, in days since 1970. -/
def date : Scan Int := do
  let year ← number 4
  oneOf [45]
  let month ← number 2
  oneOf [45]
  let day ← number 2
  require (1 ≤ month && 1 ≤ day && day ≤ (monthLengths year).getD (month - 1) 0)
  pure (daysSinceEpoch year month day)

/-- Reads a time of day, in nanoseconds since midnight. -/
def timeOfDay : Scan Nat := do
  let hour ← number 2
  oneOf [58]
  let minute ← number 2
  oneOf [58]
  let second ← number 2
  let nanos ← fraction
  require (hour ≤ 23 && minute ≤ 59 && second ≤ 60)
  pure ((hour * 3600 + minute * 60 + second) * 1000000000 + nanos)

/-- Reads a calendar time to the end of the text, in nanoseconds since 1970. -/
def instant : Scan Int := do
  if (← get).length < fixedLength then throw .tooShort
  let days ← date
  oneOf [116, 84, 32]
  let nanos ← timeOfDay
  let shift ← offset
  if !(← get).isEmpty then throw .tooLong
  require (shift.natAbs < 86400)
  pure ((days * 86400 - shift) * 1000000000 + nanos)

/-- The instant that a text denotes. -/
def readInstant (s : String) : Except Fault Int := (instant.run (Text.utf8Bytes s)).map (·.1)

end UplinkFlow.Calendar
