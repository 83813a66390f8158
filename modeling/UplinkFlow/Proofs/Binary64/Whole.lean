import Mathlib.Algebra.Order.Ring.Nat
import Mathlib.Data.Nat.Factorization.Basic
import UplinkFlow.Proofs.Binary64.ReadBack

/-!
# Whole numbers in double precision

* `nearestWhole`, `hasParts_roundUnits` — the whole number that a whole number is rounded to.
* `IsWhole` — an integer that is a double-precision number; `isWhole_iff` — exactly those that
  rounding keeps.
* `two_pow_le_nearestWhole`, `apart_nearestWhole` — rounding passes no power of two and is off by at
  most one part in `2 ^ 53`.
* `IsShort`, `IsShort.of_mul` — a number of at most 53 significant bits; **a product has no fewer
  than its factors.**
* `hasParts_mul` — the product of two whole numbers.
-/

set_option autoImplicit false

namespace UplinkFlow.Binary64

variable {n m k : Nat} {negative : Bool}

/-! ## The last place -/

/-- What the last place of a significand with the leading bit of a whole number is worth, but no
less than one. -/
def lastPlace (n : Nat) : Nat := 1 <<< (Nat.log2 n - 52)

/-- The whole number that a whole number is rounded to. -/
def nearestWhole (n : Nat) : Nat := roundEven n (lastPlace n) * lastPlace n

theorem lastPlace_eq (n : Nat) : lastPlace n = 2 ^ (Nat.log2 n - 52) := Nat.one_shiftLeft _

theorem lastPlace_pos (n : Nat) : 0 < lastPlace n := by
  rw [lastPlace_eq]
  exact Nat.two_pow_pos _

theorem nearestWhole_of_dvd (h : lastPlace n ∣ n) : nearestWhole n = n := by
  rw [nearestWhole, roundEven_of_dvd (lastPlace_pos n) h, Nat.div_mul_cancel h]

theorem lastPlace_of_lt (h : Nat.log2 n < 53) : lastPlace n = 1 := by
  rw [lastPlace, Nat.sub_eq_zero_of_le (by omega), Nat.shiftLeft_zero]

/-- Units that are rounded are whole numbers again. -/
theorem hasParts_roundUnits (h : Nat.log2 n < 1023) :
    HasParts (ofParts negative (roundUnits (n * unitsPerOne) 1)) negative
      (nearestWhole n * unitsPerOne) := by
  rcases Nat.lt_or_ge (Nat.log2 n) 53 with hsmall | hlarge
  · -- all places behind the point are there
    have hone : lastPlace n ∣ n := by
      rw [lastPlace_of_lt hsmall]
      exact Nat.one_dvd n
    rw [nearestWhole_of_dvd hone, mul_unitsPerOne]
    exact hasParts_shiftLeft hsmall (by decide)
  · have hn : n ≠ 0 := by
      rintro rfl
      simp at hlarge
    have hlog : Nat.log2 (n * unitsPerOne) = Nat.log2 n + 1074 := by
      rw [mul_unitsPerOne, log2_shiftLeft hn]
    have hparts := @roundUnits_spec negative (n * unitsPerOne) (by omega)
    have hplace : 1 <<< (Nat.log2 (n * unitsPerOne) - 52) = lastPlace n * unitsPerOne := by
      rw [hlog, mul_unitsPerOne, lastPlace, ← Nat.shiftLeft_add]
      congr 1
      omega
    have hunits : 0 < unitsPerOne := by decide +kernel
    rwa [Nat.shiftLeft_eq, ← Nat.one_shiftLeft, hplace, roundEven_mul_right hunits,
      ← Nat.mul_assoc] at hparts

theorem hasParts_ofInt {n : Int} (h : Nat.log2 n.natAbs < 1023) :
    HasParts (ofInt n) (decide (n < 0)) (nearestWhole n.natAbs * unitsPerOne) :=
  hasParts_roundUnits h

/-! ## Integers that are double-precision numbers -/

/-- An integer is a double-precision number. -/
def IsWhole (n : Int) : Prop :=
  ∃ x : Binary64, HasParts x (decide (n < 0)) (n.natAbs * unitsPerOne)

theorem lastPlace_dvd {x : Binary64} (h : x.magnitude = n * unitsPerOne) : lastPlace n ∣ n := by
  rcases Nat.lt_or_ge (Nat.log2 n) 53 with hsmall | hlarge
  · rw [lastPlace_of_lt hsmall]
    exact Nat.one_dvd n
  · have hn : n ≠ 0 := by
      rintro rfl
      simp at hlarge
    have hlow : 1 <<< (52 + (Nat.log2 n - 52 + 1074)) ≤ x.magnitude := by
      rw [h, mul_unitsPerOne, Nat.one_shiftLeft, Nat.shiftLeft_eq,
        show 52 + (Nat.log2 n - 52 + 1074) = Nat.log2 n + 1074 by omega, Nat.pow_add]
      exact Nat.mul_le_mul_right _ (Nat.log2_self_le hn)
    have hdvd := dvd_magnitude hlow
    rw [h, mul_unitsPerOne, Nat.one_shiftLeft, Nat.shiftLeft_eq, Nat.pow_add] at hdvd
    rw [lastPlace_eq]
    exact Nat.dvd_of_mul_dvd_mul_right (Nat.two_pow_pos 1074) hdvd

theorem lastPlace_dvd_nearestWhole (h : Nat.log2 n < 1023) :
    lastPlace (nearestWhole n) ∣ nearestWhole n :=
  lastPlace_dvd (@hasParts_roundUnits n false h).magnitude

theorem isWhole_iff {n : Int} (h : Nat.log2 n.natAbs < 1023) :
    IsWhole n ↔ lastPlace n.natAbs ∣ n.natAbs := by
  constructor
  · rintro ⟨x, hx⟩
    exact lastPlace_dvd hx.magnitude
  · intro hdvd
    have hparts := @hasParts_roundUnits n.natAbs (decide (n < 0)) h
    rw [nearestWhole_of_dvd hdvd] at hparts
    exact ⟨_, hparts⟩

/-! ## How far rounding goes -/

theorem two_pow_le_nearestWhole (h : 2 ^ k ≤ n) : 2 ^ k ≤ nearestWhole n := by
  have hn : n ≠ 0 := by
    rintro rfl
    exact absurd h (Nat.not_le_of_gt (Nat.two_pow_pos k))
  have hk : k ≤ Nat.log2 n := (Nat.le_log2 hn).mpr h
  have hdvd : lastPlace n ∣ 2 ^ Nat.log2 n := by
    rw [lastPlace_eq]
    exact Nat.pow_dvd_pow 2 (Nat.sub_le _ _)
  calc 2 ^ k ≤ 2 ^ Nat.log2 n := Nat.pow_le_pow_right (by decide) hk
    _ = 2 ^ Nat.log2 n / lastPlace n * lastPlace n := (Nat.div_mul_cancel hdvd).symm
    _ ≤ n / lastPlace n * lastPlace n :=
      Nat.mul_le_mul_right _ (Nat.div_le_div_right (Nat.log2_self_le hn))
    _ ≤ nearestWhole n := Nat.mul_le_mul_right _ (roundEven_bounds n _).1

/-- Rounding to a multiple is off by half of it at most. -/
theorem two_mul_apart_roundEven (hk : 0 < k) : 2 * apart (roundEven n k * k) n ≤ k := by
  have hdiv := Nat.div_add_mod n k
  have hmod := Nat.mod_lt n hk
  have hbelow := @roundEven_nearest n k hk (n / k)
  have habove := @roundEven_nearest n k hk (n / k + 1)
  rw [Nat.mul_comm (n / k)] at hbelow
  rw [Nat.mul_comm (n / k + 1), Nat.mul_add, Nat.mul_one] at habove
  unfold apart at *
  omega

/-- Rounding is off by one part in `2 ^ 53` at most. -/
theorem apart_nearestWhole (n : Nat) : apart (nearestWhole n) n * 2 ^ 53 ≤ n := by
  rcases Nat.lt_or_ge (Nat.log2 n) 53 with hsmall | hlarge
  · have hone : lastPlace n ∣ n := by
      rw [lastPlace_of_lt hsmall]
      exact Nat.one_dvd n
    rw [nearestWhole_of_dvd hone]
    simp [apart]
  · have hn : n ≠ 0 := by
      rintro rfl
      simp at hlarge
    have hhalf := @two_mul_apart_roundEven n (lastPlace n) (lastPlace_pos n)
    have hplace : lastPlace n * 2 ^ 52 ≤ n := by
      rw [lastPlace_eq, ← Nat.pow_add, Nat.sub_add_cancel (by omega)]
      exact Nat.log2_self_le hn
    calc apart (nearestWhole n) n * 2 ^ 53 = 2 * apart (nearestWhole n) n * 2 ^ 52 := by ring
      _ ≤ lastPlace n * 2 ^ 52 := Nat.mul_le_mul_right _ hhalf
      _ ≤ n := hplace

theorem nearestWhole_le (n : Nat) : nearestWhole n ≤ 2 * n := by
  have hnear := apart_nearestWhole n
  unfold apart at hnear
  omega

/-! ## Significant bits -/

/-- A number of at most 53 significant bits. -/
def IsShort (n : Nat) : Prop := ∃ q s, q < 2 ^ 53 ∧ n = q * 2 ^ s

theorem isShort_iff : IsShort n ↔ lastPlace n ∣ n := by
  constructor
  · rintro ⟨q, s, hq, rfl⟩
    rcases Nat.eq_zero_or_pos (q * 2 ^ s) with hzero | hpos
    · rw [hzero]
      exact Nat.dvd_zero _
    have hlt : q * 2 ^ s < 2 ^ (53 + s) := by
      rw [Nat.pow_add]
      exact Nat.mul_lt_mul_of_pos_right hq (Nat.two_pow_pos s)
    have hlog := (Nat.log2_lt (Nat.ne_of_gt hpos)).mpr hlt
    rw [lastPlace_eq]
    exact Nat.dvd_trans (Nat.pow_dvd_pow 2 (by omega)) (Nat.dvd_mul_left _ q)
  · intro hdvd
    refine ⟨n / lastPlace n, Nat.log2 n - 52, ?_, ?_⟩
    · rw [Nat.div_lt_iff_lt_mul (lastPlace_pos n), lastPlace_eq, ← Nat.pow_add]
      exact Nat.lt_of_lt_of_le Nat.lt_log2_self (Nat.pow_le_pow_right (by decide) (by omega))
    · rw [← lastPlace_eq, Nat.div_mul_cancel hdvd]

theorem IsShort.of_mul (h : IsShort (n * m)) (hm : m ≠ 0) : IsShort n := by
  rcases Nat.eq_zero_or_pos n with rfl | hn
  · exact ⟨0, 0, by decide, rfl⟩
  obtain ⟨q, s, hq, hmul⟩ := h
  obtain ⟨i, odd, hodd, rfl⟩ := Nat.exists_eq_two_pow_mul_odd (Nat.ne_of_gt hn)
  have hdvd : odd ∣ q * 2 ^ s := by
    rw [← hmul, Nat.mul_right_comm]
    exact Nat.dvd_mul_left odd _
  have hcoprime : Nat.Coprime odd (2 ^ s) := hodd.coprime_two_right.pow_right s
  have hpos : 0 < q := by
    rcases Nat.eq_zero_or_pos q with rfl | hpos
    · rw [Nat.zero_mul] at hmul
      exact absurd hmul (Nat.mul_ne_zero (Nat.ne_of_gt hn) hm)
    · exact hpos
  have hle : odd ≤ q := Nat.le_of_dvd hpos (hcoprime.dvd_of_dvd_mul_right hdvd)
  exact ⟨odd, i, Nat.lt_of_le_of_lt hle hq, Nat.mul_comm _ _⟩

/-! ## Products -/

/-- The product of two whole numbers is rounded once. -/
theorem hasParts_mul {x y : Binary64} (hx : HasParts x negative (n * unitsPerOne))
    (hy : HasParts y false (m * unitsPerOne)) (h : Nat.log2 (n * m) < 1023) :
    HasParts (x.mul y) negative (nearestWhole (n * m) * unitsPerOne) := by
  have hunits : 0 < unitsPerOne * unitsPerOne := by decide +kernel
  have hmul : x.mul y = ofParts negative (roundUnits (n * m * unitsPerOne) 1) := by
    rw [mul, hx.sign, hy.sign, hx.magnitude, hy.magnitude, Bool.bne_false]
    refine ofRatio_of_units hunits ?_
    ring
  rw [hmul]
  exact hasParts_roundUnits h

end UplinkFlow.Binary64
