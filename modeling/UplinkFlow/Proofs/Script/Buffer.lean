import UplinkFlow.Proofs.Record.LittleEndian
import UplinkFlow.Script.Printer

/-!
# What a decoder script does

The reads of a script as the engine documents them.  A buffer refuses to read a number beyond its
end, and clamps the ends of slices and texts.  Integers of eight bytes are no numbers until they are
converted, and all numbers are double-precision ones.

* `Buffer.unsigned`, `Buffer.signed` — whole numbers, the most significant byte last, in two's
  complement if they are signed.
* `Buffer.unsigned_eq`, `Buffer.signed_eq` — these are the numbers of a payload's bytes.
* `Expression.text`, `Expression.eval` — how an expression is written, and its value.
* `FieldMap.assign` — the fields that assignments store, one after the other.
-/

set_option autoImplicit false

namespace UplinkFlow

/-- A value in a script: a number, an integer of any size, a text, or a part of the buffer. -/
inductive ScriptValue where
  | number (x : Binary64)
  | whole (n : Int)
  | text (s : String)
  | part (bytes : Payload)

namespace Buffer

variable {buf : Payload}

/-- The bytes from an offset on, which must all be there. -/
def bytes? (buf : Payload) (offset width : Nat) : Option (List UInt8) :=
  if offset + width ≤ buf.length then some ((buf.drop offset).take width) else none

/-- The bytes between two offsets, as far as they are there. -/
def slice (buf : Payload) (start stop : Nat) : Payload := (buf.take stop).drop start

/-- The number whose most significant byte comes last. -/
def unsigned (bytes : List UInt8) : Nat :=
  bytes.reverse.foldl (fun n b => 256 * n + b.toNat) 0

/-- The number in two's complement whose most significant byte comes last; that byte has the sign
bit. -/
def signed (bytes : List UInt8) : Int :=
  if (bytes.getLast?.getD 0).toNat < 128 then unsigned bytes
  else (unsigned bytes : Int) - patterns bytes.length

/-- An integer of some bytes. -/
def integer? (buf : Payload) (isSigned : Bool) (offset width : Nat) : Option Int :=
  (bytes? buf offset width).map fun bs => if isSigned then signed bs else unsigned bs

/-- The characters of bytes. -/
def decoded (encoding : Encoding) (bytes : List UInt8) : String :=
  match encoding with
  | .ascii => Text.asciiText bytes
  | .utf8 => Text.lossyUtf8 bytes

theorem unsigned_eq (bytes : List UInt8) : unsigned bytes = littleEndian bytes := by
  unfold unsigned
  rw [List.foldl_reverse]
  induction bytes with
  | nil => rfl
  | cons b rest ih =>
    simp only [List.foldr_cons, ih, littleEndian]
    omega

theorem signed_eq (bytes : List UInt8) : signed bytes = signedLittleEndian bytes := by
  unfold signed signedLittleEndian
  simp only [unsigned_eq]
  rcases List.eq_nil_or_concat bytes with rfl | ⟨front, last, rfl⟩
  · simp [littleEndian]
  · have hfront := littleEndian_lt front
    -- the last byte alone decides on which side of the middle the number lies
    have hlow : last.toNat < 128 →
        patterns front.length * last.toNat ≤ patterns front.length * 127 :=
      fun h => Nat.mul_le_mul_left _ (by omega)
    have hhigh : ¬ last.toNat < 128 →
        patterns front.length * 128 ≤ patterns front.length * last.toNat :=
      fun h => Nat.mul_le_mul_left _ (by omega)
    simp only [List.concat_eq_append, List.getLast?_concat, Option.getD_some, littleEndian_append,
      littleEndian, List.length_append, List.length_cons, List.length_nil, patterns_succ]
    by_cases h : last.toNat < 128
    · have := hlow h
      rw [if_pos h, if_pos (by simp; omega)]
    · have := hhigh h
      rw [if_neg h, if_neg (by simp; omega)]

theorem bytes?_of_le {offset width : Nat} (h : offset + width ≤ buf.length) :
    bytes? buf offset width = some ((buf.drop offset).take width) := if_pos h

theorem integer?_of_le {isSigned : Bool} {offset width : Nat} (h : offset + width ≤ buf.length) :
    integer? buf isSigned offset width =
      some (if isSigned then signedLittleEndian ((buf.drop offset).take width)
        else littleEndian ((buf.drop offset).take width)) := by
  simp only [integer?, bytes?_of_le h, Option.map_some, signed_eq, unsigned_eq]

theorem slice_add (buf : Payload) (offset width : Nat) :
    slice buf offset (offset + width) = (buf.drop offset).take width := by
  rw [slice, List.take_drop]

end Buffer

/-! ## Expressions -/

/-- The sizes of the integers that have methods of their own. -/
inductive IntegerSize where
  | one
  | two
  | four
  | eight
deriving DecidableEq

def IntegerSize.bytes : IntegerSize → Nat
  | .one => 1
  | .two => 2
  | .four => 4
  | .eight => 8

/-- An expression of a script.

* `integer`, `sized`, `single`, `double`, `slice`, `decoded` — the methods of the buffer;
* `toNumber`, `halfToFloat` — a conversion to a number. -/
inductive Expression where
  | integer (signed : Bool) (size : IntegerSize) (offset : Nat)
  | sized (signed : Bool) (offset bytes : Nat)
  | single (offset : Nat)
  | double (offset : Nat)
  | slice (start stop : Nat)
  | decoded (encoding : Encoding) (start stop : Nat)
  | toNumber (e : Expression)
  | halfToFloat (e : Expression)

namespace ScriptValue

/-- The number that a number or an integer is converted to. -/
def toNumber? : ScriptValue → Option ScriptValue
  | .number x => some (.number x)
  | .whole n => some (.number (.ofInt n))
  | _ => none

/-- The number whose half-precision pattern a part of the buffer begins with. -/
def halfToFloat? : ScriptValue → Option ScriptValue
  | .part bytes => (Buffer.bytes? bytes 0 2).map fun bs =>
    .number (.ofSingle (singleOfHalf (UInt16.ofNat (Buffer.unsigned bs))))
  | _ => none

end ScriptValue

namespace Expression

/-- The method that reads an integer. -/
def integerMethod : Bool → IntegerSize → String
  | true, .one => "readInt8"
  | false, .one => "readUInt8"
  | true, .two => "readInt16LE"
  | false, .two => "readUInt16LE"
  | true, .four => "readInt32LE"
  | false, .four => "readUInt32LE"
  | true, .eight => "readBigInt64LE"
  | false, .eight => "readBigUInt64LE"

/-- The method that reads an integer of a number of bytes. -/
def sizedMethod : Bool → String
  | true => "readIntLE"
  | false => "readUIntLE"

def encodingLiteral : Encoding → String
  | .ascii => "\"ascii\""
  | .utf8 => "\"utf-8\""

/-- The text of an expression. -/
def text : Expression → String
  | .integer signed size offset => "buf." ++ integerMethod signed size ++ Script.arguments [offset]
  | .sized signed offset bytes => "buf." ++ sizedMethod signed ++ Script.arguments [offset, bytes]
  | .single offset => "buf.readFloatLE" ++ Script.arguments [offset]
  | .double offset => "buf.readDoubleLE" ++ Script.arguments [offset]
  | .slice start stop => "buf.slice" ++ Script.arguments [start, stop]
  | .decoded encoding start stop =>
    "buf.toString(" ++ encodingLiteral encoding ++ ", " ++ Text.decimal start ++ ", " ++
      Text.decimal stop ++ ")"
  | .toNumber e => "Number(" ++ e.text ++ ")"
  | .halfToFloat e => "halfToFloat(" ++ e.text ++ ")"

/-- The value of an expression; `none` if it has none or raises an error. -/
def eval (buf : Payload) : Expression → Option ScriptValue
  | .integer signed size offset =>
    (Buffer.integer? buf signed offset size.bytes).map fun n =>
      if size = .eight then .whole n else .number (.ofInt n)
  | .sized signed offset bytes =>
    if 1 ≤ bytes ∧ bytes ≤ 6 then
      (Buffer.integer? buf signed offset bytes).map fun n => .number (.ofInt n)
    else none
  | .single offset =>
    (Buffer.bytes? buf offset 4).map fun bs =>
      .number (.ofSingle (UInt32.ofNat (Buffer.unsigned bs)))
  | .double offset =>
    (Buffer.bytes? buf offset 8).map fun bs => .number ⟨UInt64.ofNat (Buffer.unsigned bs)⟩
  | .slice start stop => some (.part (Buffer.slice buf start stop))
  | .decoded encoding start stop =>
    some (.text (Buffer.decoded encoding (Buffer.slice buf start stop)))
  | .toNumber e => (e.eval buf).bind ScriptValue.toNumber?
  | .halfToFloat e => (e.eval buf).bind ScriptValue.halfToFloat?

end Expression

/-! ## Assignments -/

/-- A statement that stores the value of an expression in a field. -/
structure Assignment where
  field : String
  expression : Expression

/-- The line of an assignment. -/
def Assignment.text (a : Assignment) : String :=
  "fields[" ++ String.ofList (Json.literal a.field) ++ "]" ++ " = " ++ a.expression.text ++ ";"

/-- The values of a script's fields by name. -/
abbrev FieldMap := String → Option ScriptValue

namespace FieldMap

def empty : FieldMap := fun _ => none

def store (name : String) (value : ScriptValue) (m : FieldMap) : FieldMap :=
  fun name' => if name' = name then some value else m name'

/-- Carries out assignments, one after the other. -/
def assign (buf : Payload) : List Assignment → FieldMap → Option FieldMap
  | [], m => some m
  | a :: rest, m =>
    match a.expression.eval buf with
    | some value => assign buf rest (m.store a.field value)
    | none => none

end FieldMap

end UplinkFlow
