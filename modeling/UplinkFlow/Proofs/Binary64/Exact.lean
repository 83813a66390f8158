import Mathlib.Tactic.Ring
import UplinkFlow.Binary64.Shortest
import UplinkFlow.Proofs.Binary64.Rounding

/-!
# Decimals that a number is read back from

* `ofParts_lowBits` — a number is its sign and its lower bits.
* `roundUnits_mul_right` — rounding a quotient regards nothing but its value.
* `roundUnits_magnitude` — a number of units that a finite number has is rounded to that number.
-/

set_option autoImplicit false

namespace UplinkFlow.Binary64

variable {x : Binary64} {n d k : Nat}

/-! ## Bits -/

/-- The bits below the sign. -/
def lowBits (x : Binary64) : Nat := x.bits.toNat % signBit

theorem lowBits_eq (x : Binary64) :
    x.lowBits = x.exponentBits * leadingBit + x.fractionBits := by
  have hlt := x.bits.toNat_lt
  unfold lowBits exponentBits fractionBits signBit leadingBit
  omega

theorem ofParts_lowBits (x : Binary64) : ofParts x.isNegative x.lowBits = x := by
  obtain ⟨bits⟩ := x
  have hlt := bits.toNat_lt
  unfold ofParts lowBits isNegative
  congr 1
  apply UInt64.toNat_inj.mp
  rw [UInt64.toNat_ofNat']
  dsimp only
  by_cases h : signBit ≤ bits.toNat
  · rw [if_pos (decide_eq_true h)]
    unfold signBit at h ⊢
    omega
  · rw [if_neg (by simpa using h)]
    unfold signBit at h ⊢
    omega

theorem fractionBits_lt (x : Binary64) : x.fractionBits < leadingBit := Nat.mod_lt _ (by decide)

theorem exponentBits_lt (h : x.isFinite = true) : x.exponentBits < 2047 := by
  have hne : x.exponentBits ≠ 2047 := by simpa [isFinite] using h
  have hlt : x.exponentBits < 2048 := Nat.mod_lt _ (by decide)
  omega

theorem lowBits_of_isZero (h : x.isZero = true) : x.lowBits = 0 := by
  have hzero : x.magnitude = 0 := by simpa [isZero] using h
  rw [lowBits_eq]
  unfold magnitude at hzero
  split at hzero
  · rename_i hexponent
    simp [hexponent, hzero]
  · rw [Nat.shiftLeft_eq, Nat.mul_eq_zero] at hzero
    have hpow := Nat.two_pow_pos (x.exponentBits - 1)
    unfold leadingBit at hzero
    omega

/-! ## Rounding quotients -/

theorem roundEven_mul_right (hk : 0 < k) : roundEven (n * k) (d * k) = roundEven n d := by
  have hlt (a b : Nat) : a * k < b * k ↔ a < b := Nat.mul_lt_mul_right hk
  simp only [roundEven, Nat.mul_mod_mul_right, Nat.mul_div_mul_right _ _ hk, ← Nat.mul_assoc, hlt]

/-- Rounding a quotient regards nothing but its value. -/
theorem roundUnits_mul_right (hk : 0 < k) : roundUnits (n * k) (d * k) = roundUnits n d := by
  have hshift (s : Nat) : (d * k) <<< s = d <<< s * k := by
    rw [Nat.shiftLeft_eq, Nat.shiftLeft_eq]
    ring
  simp only [roundUnits, Nat.mul_div_mul_right _ _ hk, hshift, roundEven_mul_right hk]

theorem ofRatio_mul_right {negative : Bool} (hk : 0 < k) :
    ofRatio negative (n * k) (d * k) = ofRatio negative n d := by
  rw [ofRatio, Nat.mul_right_comm, roundUnits_mul_right hk, ofRatio]

/-! ## Rounding what needs no rounding -/

theorem roundUnits_of_lt (h : n < leadingBit) : roundUnits n 1 = n := by
  have hlog : Nat.log2 n - 52 = 0 := by
    rcases Nat.eq_zero_or_pos n with rfl | hpos
    · simp
    · have := (Nat.log2_lt (Nat.ne_of_gt hpos)).mpr (show n < 2 ^ 52 from h)
      omega
  have hself : roundEven n (1 <<< 0) = n := by
    rw [Nat.shiftLeft_zero, roundEven_of_dvd Nat.one_pos (Nat.one_dvd n), Nat.div_one]
  simp only [roundUnits, Nat.div_one, hlog, hself]
  unfold leadingBit at h
  simp [infinityBits, leadingBit]
  omega

theorem roundUnits_shiftLeft {shift q : Nat} (hshift : shift < 2046) (hlow : leadingBit ≤ q)
    (hhigh : q < 2 * leadingBit) : roundUnits (q <<< shift) 1 = shift * leadingBit + q := by
  have hq : q ≠ 0 := by
    unfold leadingBit at hlow
    omega
  have hlog : Nat.log2 (q <<< shift) - 52 = shift := by
    have : Nat.log2 q = 52 := (Nat.log2_eq_iff hq).mpr ⟨hlow, hhigh⟩
    rw [log2_shiftLeft hq, this, Nat.add_sub_cancel_left]
  have hpos : 0 < 2 ^ shift := Nat.two_pow_pos shift
  have hround : roundEven (q <<< shift) (1 <<< shift) = q := by
    rw [Nat.one_shiftLeft, Nat.shiftLeft_eq, roundEven_of_dvd hpos (Nat.dvd_mul_left _ _),
      Nat.mul_div_cancel _ hpos]
  simp only [roundUnits, Nat.div_one, hlog, hround]
  unfold infinityBits leadingBit at *
  omega

/-- The units of a finite number are rounded to that number. -/
theorem roundUnits_magnitude (h : x.isFinite = true) : roundUnits x.magnitude 1 = x.lowBits := by
  have hfraction := x.fractionBits_lt
  have hexponent := exponentBits_lt h
  rw [lowBits_eq]
  unfold magnitude
  split
  · rename_i hzero
    rw [roundUnits_of_lt hfraction, hzero, Nat.zero_mul, Nat.zero_add]
  · rw [roundUnits_shiftLeft (by omega) (by omega) (by omega)]
    unfold leadingBit
    omega

end UplinkFlow.Binary64
