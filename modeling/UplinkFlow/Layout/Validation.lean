import UplinkFlow.Layout.Basic
import UplinkFlow.Text.Decimal
import UplinkFlow.Text.Quoted

/-!
# Valid layouts

`Layout.validate` checks a layout before it is put to use: names are declared once, types are known
and have a length that fits them, and a device's time is taken from a declared field in a given
format.  It reports the first violation in the order of declaration; of one field, that its name
is taken comes first, and the time is looked at last.
-/

set_option autoImplicit false

namespace UplinkFlow

namespace Layout

/-- Why a layout is not valid. -/
inductive Fault where
  | unknownType (field type : String)
  | integerLength (field : String) (length : UInt64)
  | floatLength (field : String) (length : UInt64)
  | emptyField (field : String)
  | duplicateField (field : String)
  | missingTimeField
  | unknownTimeField (field : String)
deriving DecidableEq, Repr

def Fault.message : Fault → String
  | .unknownType field type =>
    "field " ++ Text.quoted field ++ " has unknown type " ++ Text.quoted type
  | .integerLength field length =>
    "field " ++ Text.quoted field ++ ": integer types can only be 1, 2, 4 or 8 bytes long (got " ++
      Text.decimal length.toNat ++ ")"
  | .floatLength field length =>
    "field " ++ Text.quoted field ++ ": floating types can only be 2, 4 or 8 bytes long (got " ++
      Text.decimal length.toNat ++ ")"
  | .emptyField field => "field " ++ Text.quoted field ++ " must be at least one byte long"
  | .duplicateField field =>
    "field name " ++ Text.quoted field ++ " is declared more than once"
  | .missingTimeField =>
    "time.field and time.format are required when time.from is \"device\""
  | .unknownTimeField field =>
    "time.field " ++ Text.quoted field ++ " does not match any field name in fields"

/-- The violation of a field taken for itself. -/
def fieldFault? (f : Field) : Option Fault :=
  match f.kind with
  | .int | .uint =>
    if f.length = 1 ∨ f.length = 2 ∨ f.length = 4 ∨ f.length = 8 then none
    else some (.integerLength f.name f.length)
  | .float =>
    if f.length = 2 ∨ f.length = 4 ∨ f.length = 8 then none
    else some (.floatLength f.name f.length)
  | .asciiText | .unicodeText => if f.length = 0 then some (.emptyField f.name) else none
  | .unknown type => some (.unknownType f.name type)

/-- The first violation of fields that follow fields with the names `seen`. -/
def fieldsFault? (seen : List String) : List Field → Option Fault
  | [] => none
  | f :: rest =>
    if f.name ∈ seen then some (.duplicateField f.name)
    else (fieldFault? f).or (fieldsFault? (f.name :: seen) rest)

/-- The violation of a time rule, given the declared names. -/
def timeFault? (declared : List String) (time : TimeRule) : Option Fault :=
  match time.source with
  | .network => none
  | .device =>
    match time.field, time.format with
    | some name, some _ => if name ∈ declared then none else some (.unknownTimeField name)
    | _, _ => some .missingTimeField

def validate (l : Layout) : Except Fault Unit :=
  match (fieldsFault? [] l.fields).or (timeFault? (l.fields.map (·.name)) l.time) with
  | some fault => .error fault
  | none => .ok ()

end Layout

end UplinkFlow
