import UplinkFlow.Text.Decimal
import UplinkFlow.Text.Hex
import UplinkFlow.Text.Parts

/-!
# Numeric addresses

* `readIPv4?` — an address of up to four numbers in decimal, octal or hexadecimal form; the last
  number fills the bytes that are left.
* `readIPv6?`, `showIPv6` — an address of eight 16-bit units, whose longest run of zero units can be
  left out.
-/

set_option autoImplicit false

namespace UplinkFlow.Url

/-- The value of digits in a base, if all of them are digits of it. -/
def baseValue? (base : Nat) (cs : List Char) : Option Nat :=
  cs.foldlM (fun acc c => (Text.hexDigit? c).bind fun d =>
    if d < base then some (acc * base + d) else none) 0

/-- The number that one part of an IPv4 address denotes. -/
def readIPv4Number? : List Char → Option Nat
  | [] => none
  | '0' :: x :: rest =>
    if x = 'x' ∨ x = 'X' then baseValue? 16 rest else baseValue? 8 (x :: rest)
  | cs => baseValue? 10 cs

/-- The parts of a name without the empty one behind a last dot. -/
def nameParts (cs : List Char) : List (List Char) :=
  let parts := Text.partsAt '.' cs
  if 1 < parts.length && parts.getLast? == some [] then parts.dropLast else parts

/-- Whether a name must be an IPv4 address: its last part is a number. -/
def endsInNumber (cs : List Char) : Bool :=
  match (nameParts cs).getLast? with
  | none | some [] => false
  | some part => part.all (fun c => (Text.digit? c).isSome) || (readIPv4Number? part).isSome

/-- The bytes of a number of 32 bits. -/
def bytesOfWord32 (n : Nat) : List Nat :=
  [n / 0x1000000 % 256, n / 0x10000 % 256, n / 256 % 256, n % 256]

def showIPv4 (n : Nat) : List Char :=
  [ '.' ].intercalate ((bytesOfWord32 n).map Text.digits)

def readIPv4? (cs : List Char) : Option Nat := do
  let numbers ← (nameParts cs).mapM readIPv4Number?
  let leading := numbers.dropLast
  let last ← numbers.getLast?
  if 3 < leading.length || leading.any (255 < ·) || Nat.pow 256 (4 - leading.length) ≤ last then none
  else
    some (last + (leading.foldl (fun acc n => acc * 256 + n) 0) * Nat.pow 256 (4 - leading.length))

/-- The state of reading an IPv6 address: the units so far in reverse, and where zeros are left
out. -/
structure UnitsState where
  units : List Nat
  gap : Option Nat

/-- Reads the four decimal bytes at the end of an IPv6 address as two units. -/
def embeddedIPv4? (cs : List Char) : Option (List Nat) := do
  let parts := Text.partsAt '.' cs
  if parts.length ≠ 4 then none
  let bytes ← parts.mapM fun part =>
    if part.isEmpty || (1 < part.length && part.head? == some '0') then none
    else (baseValue? 10 part).bind fun n => if n ≤ 255 then some n else none
  match bytes with
  | [a, b, c, d] => some [a * 256 + b, c * 256 + d]
  | _ => none

/-- Reads the units behind those of the state. -/
def readUnits? (fuel : Nat) (st : UnitsState) (cs : List Char) : Option UnitsState :=
  match fuel with
  | 0 => none
  | fuel + 1 =>
    match cs with
    | [] => some st
    | ':' :: rest =>
      if st.gap.isSome || 8 ≤ st.units.length then none
      else
        let gap := some (st.units.length + 1)
        readUnits? fuel { st with units := 0 :: st.units, gap := gap } rest
    | _ =>
      if 8 ≤ st.units.length then none
      else
        let ds := (cs.takeWhile Text.isHexDigit).take 4
        let rest := cs.drop ds.length
        match rest with
        | '.' :: _ =>
          if ds.isEmpty || 6 < st.units.length then none
          else (embeddedIPv4? cs).map fun units => { st with units := units.reverse ++ st.units }
        | ':' :: [] => none
        | ':' :: more =>
          readUnits? fuel { st with units := Text.hexValue ds :: st.units } more
        | [] => some { st with units := Text.hexValue ds :: st.units }
        | _ => none

def readIPv6? (cs : List Char) : Option (List Nat) := do
  let start ← match cs with
    | ':' :: ':' :: rest => some (UnitsState.mk [0] (some 1), rest)
    | ':' :: _ => none
    | _ => some (UnitsState.mk [] none, cs)
  let st ← readUnits? (cs.length + 1) start.1 start.2
  let units := st.units.reverse
  match st.gap with
  | some place =>
    some (units.take place ++ List.replicate (8 - units.length) 0 ++ units.drop place)
  | none => if units.length = 8 then some units else none

/-- The length of the run of zeros at the front. -/
def zeroRun (units : List Nat) : Nat := (units.takeWhile (· == 0)).length

/-- Where the longest run of zero units begins, and its length; of equal ones the first. -/
def longestZeroRun : Nat → List Nat → Nat × Nat
  | _, [] => (0, 0)
  | place, unit :: rest =>
    let later := longestZeroRun (place + 1) rest
    let here := zeroRun (unit :: rest)
    if later.2 ≤ here then (place, here) else later

def showIPv6 (units : List Nat) : List Char :=
  let joined (us : List Nat) : List Char := [ ':' ].intercalate (us.map Text.hexDigits)
  let (place, run) := longestZeroRun 0 units
  if run < 2 then joined units
  else joined (units.take place) ++ [':', ':'] ++ joined (units.drop (place + run))

end UplinkFlow.Url
