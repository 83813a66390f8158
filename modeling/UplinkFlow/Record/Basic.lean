import UplinkFlow.Plan
import UplinkFlow.Record.Timestamp
import UplinkFlow.Record.Value
import UplinkFlow.Text.Quoted

/-!
# Decoded records

`Plan.decode` carries out a plan on a payload.  The record has the value of every field that can
be read, under the field's name and in the order of first occurrence, then the time, and the tags
of the plan.  A field beyond the end of the payload, or a time field without a usable time, is an
error.
-/

set_option autoImplicit false

namespace UplinkFlow

/-- The values and tags of one measurement. -/
structure Record where
  fields : Members
  tags : Members

/-- The document of a record: its fields, then its tags. -/
def Record.toJson (r : Record) : Json := .arr [.obj r.fields, .obj r.tags]

/-- Why a payload is not decoded. -/
inductive DecodeFault where
  | outOfBounds (place : OutOfBounds)
  | missingTimeField (field : String)
  | invalidTimestamp (field : String) (reason : TimestampFault)
deriving DecidableEq, Repr

def DecodeFault.message : DecodeFault → String
  | .outOfBounds p =>
    "field " ++ Text.quoted p.field ++ " reads bytes " ++ Text.decimal p.offset ++ ".." ++
      Text.decimal p.stop ++ " but the payload has " ++ Text.decimal p.size ++ " bytes"
  | .missingTimeField field =>
    "time field " ++ Text.quoted field ++ " is not present in the decoded fields"
  | .invalidTimestamp field reason =>
    "time field " ++ Text.quoted field ++ " is not a usable timestamp: " ++ reason.message

/-- Reads fields in order and adds their values to those read before. -/
def readFields (payload : Payload) : List Field → Members → Except DecodeFault Members
  | [], values => .ok values
  | f :: rest, values =>
    match f.read payload with
    | .error place => .error (.outOfBounds place)
    | .ok none => readFields payload rest values
    | .ok (some value) => readFields payload rest (values.insert f.name value)

/-- Adds the time to the values of the fields. -/
def addTime (time : Timing) (received : Int64) (values : Members) :
    Except DecodeFault Members :=
  let store (n : Int64) := values.insert timeKey (.num (Number.ofInt64 n))
  match time with
  | .network => .ok (store received)
  | .device none _ => .ok values
  | .device (some field) format =>
    match values.member? field with
    | none => .error (.missingTimeField field)
    | some value =>
      match timestamp value format with
      | .ok n => .ok (store n)
      | .error reason => .error (.invalidTimestamp field reason)

/-- Decodes a payload that was received at a time. -/
def Plan.decode (plan : Plan) (payload : Payload) (received : Int64) :
    Except DecodeFault Record := do
  let values ← readFields payload plan.fields []
  let fields ← addTime plan.time received values
  pure ⟨fields, plan.tags⟩

end UplinkFlow
