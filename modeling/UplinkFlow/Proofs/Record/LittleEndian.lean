import Mathlib.Tactic.Ring
import UplinkFlow.Record.Value

/-!
# Whole numbers from their bytes

* `littleEndian_lt` — bytes denote a number below the number of their patterns.
* `littleEndian_append` — the last byte has the highest weight.
* `signedLittleEndian`, `signedLittleEndian_bounds` — integers in two's complement, and their range.
* `signExtend_littleEndian`, `Field.valueOf_int` — shifting a word up and back gives this integer.
* `littleEndianBytes`, `twosComplement` — the bytes of a number and of an integer; they denote it,
  and each list of bytes is that of what it denotes.
* `Number.ofInt64_ofInt`, `Number.ofWord_ofNat` — what fits a word is kept in one.
-/

set_option autoImplicit false

namespace UplinkFlow

/-- The number of patterns of some bytes. -/
def patterns (n : Nat) : Nat := Nat.pow 256 n

@[simp] theorem patterns_zero : patterns 0 = 1 := rfl

@[simp] theorem patterns_succ (n : Nat) : patterns (n + 1) = 256 * patterns n :=
  Nat.mul_comm (Nat.pow 256 n) 256

theorem patterns_le {n m : Nat} (h : n ≤ m) : patterns n ≤ patterns m :=
  Nat.pow_le_pow_right (by decide) h

theorem littleEndian_lt (bytes : List UInt8) : littleEndian bytes < patterns bytes.length := by
  induction bytes with
  | nil => simp [littleEndian]
  | cons b rest ih =>
    have hb := b.toNat_lt
    simp only [littleEndian, List.length_cons, patterns_succ]
    omega

theorem littleEndian_append (bytes others : List UInt8) :
    littleEndian (bytes ++ others) =
      littleEndian bytes + patterns bytes.length * littleEndian others := by
  induction bytes with
  | nil => simp [littleEndian]
  | cons b rest ih =>
    simp only [List.cons_append, littleEndian, List.length_cons, patterns_succ, ih]
    rw [Nat.mul_add, ← Nat.mul_assoc, Nat.add_assoc]

/-! ## Two's complement -/

/-- The integer whose two's complement is given, the least byte first. -/
def signedLittleEndian (bytes : List UInt8) : Int :=
  let n := littleEndian bytes
  if 2 * n < patterns bytes.length then n else (n : Int) - patterns bytes.length

theorem signedLittleEndian_bounds (bytes : List UInt8) :
    -(patterns bytes.length : Int) ≤ 2 * signedLittleEndian bytes ∧
      2 * signedLittleEndian bytes < patterns bytes.length := by
  have hlt := littleEndian_lt bytes
  simp only [signedLittleEndian]
  split <;> omega

theorem patterns_eq_two_pow (width : Nat) : patterns width = 2 ^ (8 * width) := by
  rw [patterns, Nat.pow_eq, Nat.pow_mul]

/-- A number in the lower part of a word, shifted up and back. -/
theorem toInt_sshiftRight_shiftLeft {n shift top : Nat} (htop : top * 2 ^ shift = 2 ^ 64)
    (hn : n < top) : ((BitVec.ofNat 64 n <<< shift).sshiftRight shift).toInt =
      if 2 * n < top then (n : Int) else n - top := by
  have hpos : 0 < 2 ^ shift := Nat.pow_pos (by decide)
  have hmoved : n * 2 ^ shift < 2 ^ 64 := htop ▸ Nat.mul_lt_mul_of_pos_right hn hpos
  have hsmall : n < 2 ^ 64 := Nat.lt_of_le_of_lt (Nat.le_mul_of_pos_right n hpos) hmoved
  have hsign : 2 * (n * 2 ^ shift) < 2 ^ 64 ↔ 2 * n < top := by
    rw [← htop, ← Nat.mul_assoc, Nat.mul_lt_mul_right hpos]
  have hback : ∀ m : Int, m * (2 ^ shift : Nat) / (2 ^ shift : Nat) = m := fun m =>
    Int.mul_ediv_cancel m (by omega)
  rw [BitVec.toInt_sshiftRight, Int.shiftRight_eq_div_pow, BitVec.toInt_eq_toNat_cond,
    BitVec.toNat_shiftLeft, BitVec.toNat_ofNat, Nat.mod_eq_of_lt hsmall, Nat.shiftLeft_eq,
    Nat.mod_eq_of_lt hmoved]
  simp only [hsign]
  split
  · rw [Int.natCast_mul, hback]
  · rw [← htop, Int.natCast_mul, Int.natCast_mul, ← Int.sub_mul, hback]

theorem signExtend_littleEndian {bytes : List UInt8} (h : bytes.length ≤ 8) :
    signExtend bytes.length (UInt64.ofNat (littleEndian bytes)) =
      Int64.ofInt (signedLittleEndian bytes) := by
  have hbounds := signedLittleEndian_bounds bytes
  have hwidth : patterns bytes.length ≤ 2 ^ 64 := patterns_le h
  have hsplit : patterns bytes.length * 2 ^ (64 - 8 * bytes.length) = 2 ^ 64 := by
    rw [patterns_eq_two_pow, ← Nat.pow_add, Nat.add_sub_cancel' (by omega)]
  apply Int64.toInt_inj.mp
  rw [Int64.toInt_ofInt_of_le (by omega) (by omega)]
  exact toInt_sshiftRight_shiftLeft hsplit (littleEndian_lt bytes)

/-- The value of a signed field is the integer of its bytes in two's complement. -/
theorem Field.valueOf_int {f : Field} {bytes : List UInt8} (hkind : f.kind = .int)
    (hbytes : bytes.length = f.length.toNat) (h : bytes.length ≤ 8) :
    f.valueOf bytes = .num (Number.ofInt64 (Int64.ofInt (signedLittleEndian bytes))) := by
  rw [valueOf, hkind]
  simp only [← hbytes, signExtend_littleEndian h]

/-! ## Writing -/

variable {width n : Nat} {v w : Int}

/-- The bytes of a number, the least first. -/
def littleEndianBytes : Nat → Nat → List UInt8
  | 0, _ => []
  | width + 1, n => UInt8.ofNat n :: littleEndianBytes width (n / 256)

@[simp] theorem length_littleEndianBytes (width n : Nat) :
    (littleEndianBytes width n).length = width := by
  induction width generalizing n with
  | zero => rfl
  | succ width ih => rw [littleEndianBytes, List.length_cons, ih]

theorem littleEndian_littleEndianBytes (h : n < patterns width) :
    littleEndian (littleEndianBytes width n) = n := by
  induction width generalizing n with
  | zero =>
    rw [patterns_zero] at h
    simp only [littleEndianBytes, littleEndian]
    omega
  | succ width ih =>
    rw [patterns_succ] at h
    rw [littleEndianBytes, littleEndian, ih (by omega), UInt8.toNat_ofNat']
    omega

theorem littleEndianBytes_littleEndian (bytes : List UInt8) :
    littleEndianBytes bytes.length (littleEndian bytes) = bytes := by
  induction bytes with
  | nil => rfl
  | cons b rest ih =>
    have hb := b.toNat_lt
    have hlast : UInt8.ofNat (b.toNat + 256 * littleEndian rest) = b := by
      apply UInt8.toNat_inj.mp
      rw [UInt8.toNat_ofNat']
      omega
    have hrest : (b.toNat + 256 * littleEndian rest) / 256 = littleEndian rest := by omega
    rw [List.length_cons, littleEndian, littleEndianBytes, hlast, hrest, ih]

/-- The range of two's complement. -/
def IsSigned (width : Nat) (v : Int) : Prop :=
  -(patterns width : Int) ≤ 2 * v ∧ 2 * v < patterns width

/-- The bytes of an integer in two's complement, the least first. -/
def twosComplement (width : Nat) (v : Int) : List UInt8 :=
  littleEndianBytes width (v % patterns width).toNat

theorem twosComplement_signedLittleEndian (bytes : List UInt8) :
    twosComplement bytes.length (signedLittleEndian bytes) = bytes := by
  have hlt := littleEndian_lt bytes
  have hmod : signedLittleEndian bytes % patterns bytes.length = littleEndian bytes := by
    simp only [signedLittleEndian]
    split
    · exact Int.emod_eq_of_lt (Int.natCast_nonneg _) (Int.ofNat_lt.mpr hlt)
    · rw [Int.sub_emod_right]
      exact Int.emod_eq_of_lt (Int.natCast_nonneg _) (Int.ofNat_lt.mpr hlt)
  rw [twosComplement, hmod, Int.toNat_natCast, littleEndianBytes_littleEndian]

/-- Negative integers stand above the others. -/
theorem emod_of_isSigned (h : IsSigned width v) :
    v % patterns width = if v < 0 then v + patterns width else v := by
  unfold IsSigned at h
  split
  · rw [← Int.add_emod_right]
    exact Int.emod_eq_of_lt (by omega) (by omega)
  · exact Int.emod_eq_of_lt (by omega) (by omega)

theorem twosComplement_inj (hv : IsSigned width v) (hw : IsSigned width w)
    (h : twosComplement width v = twosComplement width w) : v = w := by
  have hnumber := congrArg littleEndian h
  rw [twosComplement, twosComplement, emod_of_isSigned hv, emod_of_isSigned hw] at hnumber
  unfold IsSigned at hv hw
  rw [littleEndian_littleEndianBytes (by omega), littleEndian_littleEndianBytes (by omega)]
    at hnumber
  split at hnumber <;> split at hnumber <;> omega

/-! ## Words -/

namespace Number

theorem ofInt64_ofInt (hlow : -0x8000000000000000 ≤ v) (hhigh : v < 0x8000000000000000) :
    ∃ fits, ofInt64 (Int64.ofInt v) = .whole v fits := by
  refine ⟨by omega, ?_⟩
  simp only [ofInt64, Int64.toInt_ofInt_of_le hlow hhigh]

theorem ofWord_ofNat (h : n < 0x10000000000000000) :
    ∃ fits, ofWord (UInt64.ofNat n) = .whole n fits := by
  refine ⟨by omega, ?_⟩
  simp only [ofWord, UInt64.toNat_ofNat_of_lt' h]

end Number

end UplinkFlow
