/-!
# Whole numbers in decimal

* `digits` — the decimal text of a natural number, without leading zeros.
* `readNat` — reads an unsigned number that may carry a plus sign and leading zeros and must not
  exceed a bound; the first fault met from left to right is reported.
* `readInt?` — reads a signed 64-bit number.
-/

set_option autoImplicit false

namespace UplinkFlow.Text

def digit? (c : Char) : Option Nat :=
  if '0' ≤ c ∧ c ≤ '9' then some (c.toNat - '0'.toNat) else none

/-- The decimal digit of a value below ten. -/
def digitChar (d : Nat) : Char := Char.ofNat ('0'.toNat + d)

/-- The decimal digits of a number, the most significant first. -/
def digits (n : Nat) : List Char :=
  if n < 10 then [digitChar n] else digits (n / 10) ++ [digitChar (n % 10)]
termination_by n
decreasing_by omega

def decimal (n : Nat) : String := String.ofList (digits n)

def signedDecimal (n : Int) : String :=
  if n < 0 then "-" ++ decimal n.natAbs else decimal n.natAbs

/-- The largest value of 64 bits. -/
def maxWord : Nat := 0xFFFFFFFFFFFFFFFF

/-- Why a text is no whole number. -/
inductive WholeFault where
  | empty
  | invalidDigit
  | tooLarge
deriving DecidableEq, Repr

def WholeFault.message : WholeFault → String
  | .empty => "cannot parse integer from empty string"
  | .invalidDigit => "invalid digit found in string"
  | .tooLarge => "number too large to fit in target type"

/-- Appends one digit to a number that must stay within the bound. -/
def pushDigit (bound acc : Nat) (c : Char) : Except WholeFault Nat :=
  match digit? c with
  | none => .error .invalidDigit
  | some d => if acc * 10 + d ≤ bound then .ok (acc * 10 + d) else .error .tooLarge

/-- Reads digits from left to right; there must be at least one. -/
def readDigits (bound : Nat) : List Char → Except WholeFault Nat
  | [] => .error .invalidDigit
  | cs => cs.foldlM (pushDigit bound) 0

/-- Reads an unsigned number up to `bound`: an optional plus sign, then digits. -/
def readNat (bound : Nat) : List Char → Except WholeFault Nat
  | [] => .error .empty
  | '+' :: cs => readDigits bound cs
  | cs => readDigits bound cs

/-- Reads a number of 64 bits. -/
def readWord (s : String) : Except WholeFault Nat := readNat maxWord s.toList

/-- Reads a signed number of 64 bits. -/
def readInt? (s : String) : Option Int :=
  match s.toList with
  | '-' :: cs => (readDigits 0x8000000000000000 cs).toOption.map fun n => -(n : Int)
  | cs => (readNat 0x7FFFFFFFFFFFFFFF cs).toOption.map fun n => (n : Int)

end UplinkFlow.Text
