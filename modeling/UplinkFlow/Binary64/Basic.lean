import UplinkFlow.Text.Decimal

/-!
# Double-precision numbers

A `Binary64` is the 64-bit pattern of a double-precision number.  All arithmetic is exact: the
magnitude of a finite number is a whole multiple of `2 ^ (-1074)`, and a quotient of natural
numbers is rounded once, to the nearest number, a tie to the even significand.

* `magnitude` — a finite number's distance from zero, counted in units of `2 ^ (-1074)`.
* `ofRatio` — the nearest number to a quotient, infinity when it lies beyond the largest one.
* `mul`, `div` — one rounding of the exact product and quotient.
* `ofSingle`, `singleOfHalf` — widening of narrower patterns.
-/

set_option autoImplicit false

namespace UplinkFlow

/-- The bit pattern of a double-precision number. -/
structure Binary64 where
  bits : UInt64
deriving DecidableEq, Repr

namespace Binary64

/-- The number of units of the smallest positive number in one. -/
def unitsPerOne : Nat := 1 <<< 1074

/-- The bit of the sign. -/
def signBit : Nat := 0x8000000000000000

/-- The bit above the stored ones of the significand, which is also the lowest of the exponent. -/
def leadingBit : Nat := 0x10000000000000

def isNegative (x : Binary64) : Bool := signBit ≤ x.bits.toNat

/-- The eleven bits of the biased exponent. -/
def exponentBits (x : Binary64) : Nat := x.bits.toNat / leadingBit % 2048

/-- The fifty-two stored bits of the significand. -/
def fractionBits (x : Binary64) : Nat := x.bits.toNat % leadingBit

/-- Whether the pattern is neither an infinity nor a NaN. -/
def isFinite (x : Binary64) : Bool := x.exponentBits != 2047

/-- The distance from zero of a finite number, in units of `2 ^ (-1074)`. -/
def magnitude (x : Binary64) : Nat :=
  if x.exponentBits = 0 then x.fractionBits
  else (leadingBit + x.fractionBits) <<< (x.exponentBits - 1)

/-- The pattern with a given sign and the 63 lower bits. -/
def ofParts (negative : Bool) (low : Nat) : Binary64 :=
  ⟨UInt64.ofNat ((if negative then signBit else 0) + low)⟩

/-- The lower bits of infinity. -/
def infinityBits : Nat := 2047 * leadingBit

/-- The quotient `n / d` rounded to the nearest natural number, a tie to the even one. -/
def roundEven (n d : Nat) : Nat :=
  if 2 * (n % d) < d then n / d
  else if d < 2 * (n % d) then n / d + 1
  else n / d + n / d % 2

/-- The lower bits of the number nearest to `n / d` units. -/
def roundUnits (n d : Nat) : Nat :=
  let shift := Nat.log2 (n / d) - 52
  min infinityBits (shift * leadingBit + roundEven n (d <<< shift))

/-- The number nearest to `n / d` with the given sign, where `d` is not zero. -/
def ofRatio (negative : Bool) (n d : Nat) : Binary64 :=
  ofParts negative (roundUnits (n * unitsPerOne) d)

/-- The number nearest to an integer. -/
def ofInt (n : Int) : Binary64 := ofRatio (decide (n < 0)) n.natAbs 1

/-- The number nearest to `n * 10 ^ e` with the given sign.  A decimal of at least `10 ^ 310` is
beyond every finite number, and one below `10 ^ (-325)` is nearer to zero than to any other. -/
def ofDecimal (negative : Bool) (n : Nat) (e : Int) : Binary64 :=
  let places := ((Text.digits n).length : Int) + e
  if n = 0 ∨ places < -325 then ofParts negative 0
  else if 311 ≤ places then ofParts negative infinityBits
  else if 0 ≤ e then ofRatio negative (n * Nat.pow 10 e.toNat) 1
  else ofRatio negative n (Nat.pow 10 (-e).toNat)

def neg (x : Binary64) : Binary64 := ofParts (!x.isNegative) (x.bits.toNat % signBit)

/-- The product of two finite numbers. -/
def mul (x y : Binary64) : Binary64 :=
  ofRatio (x.isNegative != y.isNegative) (x.magnitude * y.magnitude) (unitsPerOne * unitsPerOne)

/-- The quotient of two finite numbers, the second of which is not zero. -/
def div (x y : Binary64) : Binary64 :=
  ofRatio (x.isNegative != y.isNegative) x.magnitude y.magnitude

def isZero (x : Binary64) : Bool := x.magnitude == 0

/-- The integer part of a finite number. -/
def truncate (x : Binary64) : Int :=
  let whole : Int := (x.magnitude / unitsPerOne : Nat)
  if x.isNegative then -whole else whole

/-- The number with the value of a single-precision pattern; a pattern whose exponent bits are all
ones widens to one that is not finite either. -/
def ofSingle (pattern : UInt32) : Binary64 :=
  let n := pattern.toNat
  let negative := decide (0x80000000 ≤ n)
  let exponent := n / 0x800000 % 256
  let fraction := n % 0x800000
  if exponent = 255 then ofParts negative (infinityBits + fraction * 0x20000000)
  else if exponent = 0 then ofRatio negative fraction (1 <<< 149)
  else ofRatio negative ((0x800000 + fraction) <<< (exponent - 1)) (1 <<< 149)

end Binary64

/-- The single-precision pattern for a half-precision one.  Numbers without a leading one become
zero, and the exponent is moved to its new bias for every other pattern, so that the patterns of
infinity and NaN become ordinary numbers. -/
def singleOfHalf (pattern : UInt16) : UInt32 :=
  let h := pattern.toUInt32
  let magnitude : UInt32 := if h &&& 0x7c00 = 0 then 0 else ((h &&& 0x7fff) <<< 13) + 0x38000000
  magnitude ||| ((h &&& 0x8000) <<< 16)

end UplinkFlow
