import UplinkFlow.Plan

/-!
# Decoder scripts

A `Script` is the body of a function node as data: one statement for each field that can be read,
at most one statement for the time, and the tags.

* `Call` — a read of the payload buffer; `Call.of?` chooses the one for a field.
* `TimeStep.of?` — the statement that stores the time.
* `Script.of` — the script of a plan; a field without a fitting read has no statement.
-/

set_option autoImplicit false

namespace UplinkFlow

/-- The text encodings of the payload buffer. -/
inductive Encoding where
  | ascii
  | utf8
deriving DecidableEq, Repr

/-- A read of the payload buffer; all numbers are little-endian.

* `byte`, `fixed`, `wide`, `sized` — an integer of one byte, of two or four, of eight, and of
  another number of bytes;
* `half`, `single`, `double` — a floating-point number of two, four and eight bytes;
* `text` — the characters between two offsets. -/
inductive Call where
  | byte (signed : Bool) (offset : Nat)
  | fixed (signed : Bool) (bytes offset : Nat)
  | wide (signed : Bool) (offset : Nat)
  | sized (signed : Bool) (offset bytes : Nat)
  | half (start stop : Nat)
  | single (offset : Nat)
  | double (offset : Nat)
  | text (encoding : Encoding) (start stop : Nat)
deriving DecidableEq, Repr

namespace Call

/-- The read of an integer of a number of bytes. -/
def integer? (signed : Bool) (offset : Nat) (bytes : Nat) : Option Call :=
  if bytes = 1 then some (.byte signed offset)
  else if bytes = 2 ∨ bytes = 4 then some (.fixed signed bytes offset)
  else if bytes = 8 then some (.wide signed offset)
  else if bytes = 3 ∨ bytes = 5 ∨ bytes = 6 then some (.sized signed offset bytes)
  else none

def of? (f : Field) : Option Call :=
  let offset := f.offset.toNat
  match f.kind with
  | .int => integer? true offset f.length.toNat
  | .uint => integer? false offset f.length.toNat
  | .float =>
    if f.length = 2 then some (.half offset f.stop)
    else if f.length = 4 then some (.single offset)
    else some (.double offset)
  | .asciiText => some (.text .ascii offset f.stop)
  | .unicodeText => some (.text .utf8 offset f.stop)
  | .unknown _ => none

end Call

/-- A statement that stores the time, in nanoseconds: the present time, the value of a field times
a factor, or the calendar time that a field holds. -/
inductive TimeStep where
  | now
  | scaled (field : String) (factor : Nat)
  | calendar (field : String)
deriving DecidableEq, Repr

/-- The statement for a timing; a device that names no field has none. -/
def TimeStep.of? : Timing → Option TimeStep
  | .network => some .now
  | .device none _ => none
  | .device (some field) format =>
    match format.unitNanos? with
    | some factor => some (.scaled field factor)
    | none => some (.calendar field)

/-- The body of a function node. -/
structure Script where
  reads : List (String × Call)
  time : Option TimeStep
  tags : Members

def Script.of (plan : Plan) : Script where
  reads := plan.fields.filterMap fun f => (Call.of? f).map fun call => (f.name, call)
  time := TimeStep.of? plan.time
  tags := plan.tags

end UplinkFlow
