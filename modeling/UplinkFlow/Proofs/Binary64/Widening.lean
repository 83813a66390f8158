import Mathlib.Tactic.FieldSimp
import Mathlib.Algebra.Order.Field.Rat
import UplinkFlow.Proofs.Binary64.ReadBack

/-!
# Widening single precision

* `patternValue` — what a pattern of a binary format denotes; `Binary64.value` and `singleValue` for
  the two widths; `eq_of_value` — a finite number is determined by its sign and its value.
* `hasParts_ofSingle`, `isFinite_ofSingle` — the parts of the number that a single-precision pattern
  is widened to; only patterns whose exponent bits are all ones have none.
* `value_ofSingle` — **widening keeps the value.**
-/

set_option autoImplicit false

namespace UplinkFlow.Binary64

variable {width bias exponent fraction m : Nat} {negative : Bool} {x : Binary64}
  {pattern : UInt32}

/-! ## Values of patterns -/

/-- The value of a finite pattern of a binary format: `width` bits of the significand are stored,
the exponent has a `bias`, and patterns without exponent bits have no leading one. -/
def patternValue (width bias : Nat) (negative : Bool) (exponent fraction : Nat) : ℚ :=
  (if negative then -1 else 1) *
    if exponent = 0 then (fraction / 2 ^ width : ℚ) * (2 : ℚ) ^ (1 - bias : ℤ)
    else (1 + fraction / 2 ^ width : ℚ) * (2 : ℚ) ^ (exponent - bias : ℤ)

/-- The value of a finite double-precision number. -/
def value (x : Binary64) : ℚ := patternValue 52 1023 x.isNegative x.exponentBits x.fractionBits

def singleIsNegative (pattern : UInt32) : Bool := decide (0x80000000 ≤ pattern.toNat)

/-- The eight bits of the biased exponent of a single-precision pattern. -/
def singleExponent (pattern : UInt32) : Nat := pattern.toNat / 0x800000 % 256

/-- The twenty-three stored bits of the significand of a single-precision pattern. -/
def singleFraction (pattern : UInt32) : Nat := pattern.toNat % 0x800000

/-- The value of a finite single-precision pattern. -/
def singleValue (pattern : UInt32) : ℚ :=
  patternValue 23 127 (singleIsNegative pattern) (singleExponent pattern) (singleFraction pattern)

/-- How many units of the smallest positive number of the format a pattern counts. -/
def patternUnits (width exponent fraction : Nat) : Nat :=
  if exponent = 0 then fraction else (1 <<< width + fraction) <<< (exponent - 1)

theorem patternValue_eq (hbias : 0 < bias) :
    patternValue width bias negative exponent fraction =
      (if negative then -1 else 1) *
        (patternUnits width exponent fraction / 2 ^ (bias - 1 + width)) := by
  have hpow : (2 : ℚ) ^ (1 - bias : ℤ) = (2 ^ (bias - 1))⁻¹ := by
    rw [← zpow_natCast, ← zpow_neg]
    congr 1
    omega
  unfold patternValue patternUnits
  congr 1
  split
  · rw [hpow, pow_add]
    field_simp
  · have hexponent : (2 : ℚ) ^ (exponent - bias : ℤ) = 2 ^ (exponent - 1) * (2 ^ (bias - 1))⁻¹ := by
      rw [← hpow, ← zpow_natCast, ← zpow_add₀ two_ne_zero]
      congr 1
      omega
    rw [hexponent, pow_add, Nat.shiftLeft_eq, Nat.one_shiftLeft]
    push_cast
    field_simp

theorem value_of_hasParts (h : HasParts x negative m) :
    x.value = (if negative then -1 else 1) * (m / 2 ^ (1022 + 52)) := by
  have hmagnitude : patternUnits 52 x.exponentBits x.fractionBits = m := h.magnitude
  rw [value, patternValue_eq (by decide), h.sign, hmagnitude]

/-- A finite number is determined by its sign and its value. -/
theorem eq_of_value {y : Binary64} (hx : x.isFinite = true) (hy : y.isFinite = true)
    (hsign : x.isNegative = y.isNegative) (hvalue : x.value = y.value) : x = y := by
  rw [value_of_hasParts ⟨hx, hsign, rfl⟩, value_of_hasParts ⟨hy, rfl, rfl⟩] at hvalue
  have hne : (if y.isNegative then -1 else 1 : ℚ) ≠ 0 := by
    split <;> decide
  have hdiv := mul_left_cancel₀ hne hvalue
  rw [div_left_inj' (pow_ne_zero _ two_ne_zero), Nat.cast_inj] at hdiv
  rw [← ofParts_lowBits x, ← ofParts_lowBits y, ← roundUnits_magnitude hx,
    ← roundUnits_magnitude hy, hsign, hdiv]

/-! ## Widening -/

theorem singleFraction_lt (pattern : UInt32) : singleFraction pattern < 0x800000 :=
  Nat.mod_lt _ (by decide)

theorem singleExponent_lt (pattern : UInt32) : singleExponent pattern < 256 :=
  Nat.mod_lt _ (by decide)

theorem ofSingle_eq (pattern : UInt32) : ofSingle pattern =
    if singleExponent pattern = 255 then
      ofParts (singleIsNegative pattern) (infinityBits + singleFraction pattern * 0x20000000)
    else ofRatio (singleIsNegative pattern)
      (patternUnits 23 (singleExponent pattern) (singleFraction pattern)) (1 <<< 149) := by
  unfold patternUnits ofSingle
  split
  · exact if_pos ‹_›
  · split
    · exact (if_neg ‹_›).trans (if_pos ‹_›)
    · exact (if_neg ‹_›).trans (if_neg ‹_›)

theorem exists_patternUnits (hexponent : exponent < 256) (hfraction : fraction < 0x800000) :
    ∃ significand shift, patternUnits 23 exponent fraction = significand <<< shift ∧
      Nat.log2 significand < 53 ∧ shift < 255 := by
  unfold patternUnits
  split
  · have hlt : fraction < 1 <<< 53 := Nat.lt_trans hfraction (by decide)
    exact ⟨fraction, 0, rfl, log2_lt_of_lt (by decide) hlt, by decide⟩
  · have hlt : 1 <<< 23 + fraction < 1 <<< 53 := by
      simp only [Nat.one_shiftLeft]
      omega
    exact ⟨_, _, rfl, log2_lt_of_lt (by decide) hlt, by omega⟩

theorem hasParts_ofSingle (h : singleExponent pattern ≠ 255) :
    HasParts (ofSingle pattern) (singleIsNegative pattern)
      (patternUnits 23 (singleExponent pattern) (singleFraction pattern) <<< 925) := by
  rw [ofSingle_eq, if_neg h]
  obtain ⟨significand, shift, hunits, hlog, hshift⟩ :=
    exists_patternUnits (singleExponent_lt pattern) (singleFraction_lt pattern)
  rw [hunits, ← Nat.shiftLeft_add,
    ofRatio_of_units (m := significand <<< (shift + 925)) (k := 1 <<< 149)]
  · exact hasParts_shiftLeft hlog (by omega)
  · decide +kernel
  · -- a unit of single precision is `2 ^ 925` of the smaller ones
    rw [mul_unitsPerOne, mul_one_shiftLeft, ← Nat.shiftLeft_add, ← Nat.shiftLeft_add]

/-- The exponent bits of the other patterns are all ones, and stay so. -/
theorem isFinite_ofSingle (pattern : UInt32) :
    (ofSingle pattern).isFinite = true ↔ singleExponent pattern ≠ 255 := by
  constructor
  · rintro hfinite hexponent
    have hfraction := singleFraction_lt pattern
    have hlow : infinityBits + singleFraction pattern * 0x20000000 < signBit := by
      unfold infinityBits leadingBit signBit
      omega
    rw [ofSingle_eq, if_pos hexponent, isFinite, exponentBits_ofParts hlow, bne_iff_ne] at hfinite
    apply hfinite
    unfold infinityBits leadingBit
    omega
  · intro h
    exact (hasParts_ofSingle h).finite

theorem shiftLeft_div (n shift places : Nat) :
    ((n <<< shift : Nat) : ℚ) / 2 ^ (places + shift) = n / 2 ^ places := by
  rw [Nat.shiftLeft_eq, Nat.cast_mul, Nat.cast_pow, Nat.cast_ofNat, pow_add,
    mul_div_mul_right _ _ (pow_ne_zero shift two_ne_zero)]

/-- **Widening keeps the value.** -/
theorem value_ofSingle (h : singleExponent pattern ≠ 255) :
    (ofSingle pattern).value = singleValue pattern := by
  have hunits := shiftLeft_div
    (patternUnits 23 (singleExponent pattern) (singleFraction pattern)) 925 (126 + 23)
  rw [value_of_hasParts (hasParts_ofSingle h), singleValue, patternValue_eq (by decide)]
  exact congrArg _ hunits

end UplinkFlow.Binary64
