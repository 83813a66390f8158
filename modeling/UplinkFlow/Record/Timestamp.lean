import UplinkFlow.Binary64.FreeForm
import UplinkFlow.Calendar
import UplinkFlow.Json.Basic
import UplinkFlow.Layout.Basic
import UplinkFlow.Text.Blank

/-!
# The time that a field holds

`timestamp` turns the value of a field into nanoseconds since 1970, as its format says.  A calendar
time is text.  An epoch time is an integer, which is scaled exactly, or a double-precision number
or the text of one, which is scaled as such and then truncated; either way the result must be a
signed 64-bit integer.
-/

set_option autoImplicit false

namespace UplinkFlow

/-- Why a value is no time. -/
inductive TimestampFault where
  | noCalendarText
  | badCalendar (fault : Calendar.Fault)
  | noEpochNumber
  | outOfRange
deriving DecidableEq, Repr

def TimestampFault.message : TimestampFault → String
  | .noCalendarText => "expected a calendar string"
  | .badCalendar fault => fault.message
  | .noEpochNumber => "expected a numeric epoch value"
  | .outOfRange => "outside the representable nanosecond range"

/-- An integer as a signed word. -/
def nanoseconds (n : Int) : Except TimestampFault Int64 :=
  if -0x8000000000000000 ≤ n ∧ n < 0x8000000000000000 then .ok (Int64.ofInt n) else .error .outOfRange

/-- The integer that a value is, if it fits a signed word. -/
def Json.signedWord? : Json → Option Int
  | .num (.whole n _) => if n < 0x8000000000000000 then some n else none
  | _ => none

/-- The double-precision number that a value is or that its text denotes. -/
def Json.numeric? : Json → Option Binary64
  | .num n => some n.toBinary64
  | .str s => Binary64.ofText? (Text.trim s)
  | _ => none

/-- A number of units as nanoseconds, in double precision. -/
def scaledTimestamp (x : Binary64) (factor : Nat) : Except TimestampFault Int64 :=
  if !x.isFinite then .error .outOfRange
  else
    let product := x.mul (Binary64.ofInt factor)
    if product.isFinite && product.truncate.natAbs < 0x8000000000000000 then
      .ok (Int64.ofInt product.truncate)
    else .error .outOfRange

/-- The time that a value denotes in a format. -/
def timestamp (value : Json) (format : TimestampFormat) : Except TimestampFault Int64 :=
  match format.unitNanos? with
  | none =>
    match value with
    | .str s =>
      match Calendar.readInstant (Text.trim s) with
      | .ok n => nanoseconds n
      | .error fault => .error (.badCalendar fault)
    | _ => .error .noCalendarText
  | some factor =>
    match value.signedWord?, value.numeric? with
    | some n, _ => nanoseconds (n * factor)
    | none, some x => scaledTimestamp x factor
    | none, none => .error .noEpochNumber

end UplinkFlow
