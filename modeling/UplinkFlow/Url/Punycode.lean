/-!
# Punycode

Labels with characters of any script have a form in ASCII: the ASCII characters first, then digits
of base 36 that say which characters go where.

* `punycode` — the ASCII form of a label.
* `ofPunycode?` — the label of an ASCII form.
-/

set_option autoImplicit false

namespace UplinkFlow.Url

/-- A digit of base 36, letters first. -/
def punycodeDigit (d : Nat) : Char :=
  if d < 26 then Char.ofNat ('a'.toNat + d) else Char.ofNat ('0'.toNat + (d - 26))

/-- The threshold of a digit's place under a bias. -/
def threshold (place bias : Nat) : Nat := min 26 (max 1 (place - bias))

/-- The digits of a difference, the least first. -/
def punycodeDigits (bias place n : Nat) : List Char :=
  let t := threshold place bias
  if n < t then [punycodeDigit n]
  else
    punycodeDigit (t + (n - t) % (36 - t)) :: punycodeDigits bias (place + 36) ((n - t) / (36 - t))
termination_by n
decreasing_by
  have h : 1 ≤ threshold place bias := by unfold threshold; omega
  have := Nat.div_le_self (n - threshold place bias) (36 - threshold place bias)
  omega

/-- Divides a difference until it is small, and counts the places. -/
def shrink (n place : Nat) : Nat × Nat :=
  if 455 < n then shrink (n / 35) (place + 36) else (n, place)
termination_by n
decreasing_by omega

/-- The bias after a difference has been written. -/
def adaptBias (n count : Nat) (first : Bool) : Nat :=
  let halved := if first then n / 700 else n / 2
  let (small, place) := shrink (halved + halved / count) 0
  place + 36 * small / (small + 38)

/-- The state of writing a label. -/
structure PunycodeState where
  delta : Nat
  bias : Nat
  done : Nat
  written : List Char

/-- Takes one character into account while those with the code `n` are written. -/
def punycodeStep (n basic : Nat) (st : PunycodeState) (c : Char) : PunycodeState :=
  if c.toNat < n then { st with delta := st.delta + 1 }
  else if c.toNat = n then
    ⟨0, adaptBias st.delta (st.done + 1) (st.done == basic), st.done + 1,
      st.written ++ punycodeDigits st.bias 36 st.delta⟩
  else st

/-- Writes the characters with the given ascending codes; `n` is the least code not yet treated. -/
def punycodeCodes (label : List Char) (basic : Nat) :
    List Nat → Nat → PunycodeState → List Char
  | [], _, st => st.written
  | code :: codes, n, st =>
    let st := { st with delta := st.delta + (code - n) * (st.done + 1) }
    let st := label.foldl (punycodeStep code basic) st
    punycodeCodes label basic codes (code + 1) { st with delta := st.delta + 1 }

/-- The ASCII form of a label. -/
def punycode (label : List Char) : List Char :=
  let basic := label.filter fun c => c.toNat < 128
  let codes := ((label.map Char.toNat).filter (128 ≤ ·)).eraseDups.mergeSort
  let start := if basic.isEmpty then [] else basic ++ ['-']
  start ++ punycodeCodes label basic.length codes 128 ⟨0, 72, basic.length, []⟩

/-! ## Reading -/

/-- The value of a digit of base 36. -/
def punycodeValue? (c : Char) : Option Nat :=
  if c.isAlpha then some (c.toLower.toNat - 'a'.toNat)
  else if c.isDigit then some (c.toNat - '0'.toNat + 26)
  else none

/-- The state of reading a label: the text so far, the code and the position that the last insertion
has reached, and the difference that is being read with the weight and the place of its next
digit. -/
structure PunycodeReading where
  text : List Char
  code : Nat
  position : Nat
  bias : Nat
  difference : Nat
  weight : Nat
  place : Nat

/-- The largest number that takes part in reading. -/
def punycodeLimit : Nat := 0xFFFFFFFF

/-- Whether a number is that of a character. -/
def isCharacterCode (n : Nat) : Bool := n < 0xd800 || (0xdfff < n && n < 0x110000)

/-- Inserts the character that a complete difference leads to. -/
def PunycodeReading.insert? (st : PunycodeReading) : Option PunycodeReading :=
  let size := st.text.length + 1
  let reached := st.position + st.difference
  let code := st.code + reached / size
  let position := reached % size
  if isCharacterCode code then
    some
      { text := st.text.take position ++ Char.ofNat code :: st.text.drop position
        code := code
        position := position + 1
        bias := adaptBias st.difference size (st.position == 0)
        difference := 0
        weight := 1
        place := 36 }
  else none

/-- Reads one digit. -/
def PunycodeReading.step? (st : PunycodeReading) (c : Char) : Option PunycodeReading := do
  let digit ← punycodeValue? c
  let difference := st.difference + digit * st.weight
  let t := threshold st.place st.bias
  if punycodeLimit < st.position + difference then none
  else if digit < t then ({ st with difference := difference } : PunycodeReading).insert?
  else if punycodeLimit < st.weight * (36 - t) then none
  else
    some { st with
      difference := difference, weight := st.weight * (36 - t), place := st.place + 36 }

/-- The label of an ASCII form. -/
def ofPunycode? (cs : List Char) : Option (List Char) := do
  let digits := (cs.reverse.takeWhile (· != '-')).reverse
  let basic := cs.take (cs.length - digits.length - 1)
  if digits.length < cs.length && basic.isEmpty then none
  let st ← digits.foldlM PunycodeReading.step? ⟨basic, 128, 0, 72, 0, 1, 36⟩
  if st.place = 36 then some st.text else none

end UplinkFlow.Url
