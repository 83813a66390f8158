import UplinkFlow.Binary64.Basic

/-!
# Rounding to double precision

* `HasParts` — the sign and the magnitude of a finite number; `hasParts_normal`,
  `hasParts_subnormal` — those of a pattern put together from its parts.
* `dvd_magnitude` — finite numbers from `2 ^ (52 + shift)` units on are multiples of `2 ^ shift`.
* `roundUnits_spec` — rounding takes the nearest multiple of the unit of the last place.
* `roundUnits_nearest`, `ofInt_nearest` — **no finite number is nearer than the rounded one.**
* `hasParts_shiftLeft` — units of at most 53 significant bits need no rounding; `denotes_ofInt` — an
  integer of at most 53 bits is a double-precision number.
-/

set_option autoImplicit false

namespace UplinkFlow.Binary64

variable {negative : Bool} {low n d : Nat}

/-! ## Patterns -/

theorem toNat_ofParts (h : low < signBit) :
    (ofParts negative low).bits.toNat = (if negative then signBit else 0) + low := by
  unfold signBit at h
  cases negative <;> simp [ofParts, signBit] <;> omega

theorem isNegative_ofParts (h : low < signBit) : (ofParts negative low).isNegative = negative := by
  rw [isNegative, toNat_ofParts h]
  cases negative <;> simp [signBit] at h ⊢; omega

theorem exponentBits_ofParts (h : low < signBit) :
    (ofParts negative low).exponentBits = low / leadingBit := by
  rw [exponentBits, toNat_ofParts h]
  cases negative <;> simp [signBit, leadingBit] at h ⊢ <;> omega

theorem fractionBits_ofParts (h : low < signBit) :
    (ofParts negative low).fractionBits = low % leadingBit := by
  rw [fractionBits, toNat_ofParts h]
  cases negative with
  | false => simp [leadingBit]
  | true =>
    simp [signBit, leadingBit]
    omega

/-- What a finite number is made of. -/
structure HasParts (x : Binary64) (negative : Bool) (magnitude : Nat) : Prop where
  finite : x.isFinite = true
  sign : x.isNegative = negative
  magnitude : x.magnitude = magnitude

/-- A pattern whose significand `q` has its leading one. -/
theorem hasParts_normal {shift q : Nat} (hshift : shift < 2046) (hlow : leadingBit ≤ q)
    (hhigh : q < 2 * leadingBit) :
    HasParts (ofParts negative (shift * leadingBit + q)) negative (q <<< shift) := by
  have hsign : shift * leadingBit + q < signBit := by
    unfold leadingBit at *
    unfold signBit
    omega
  have hexponent : (shift * leadingBit + q) / leadingBit = shift + 1 := by
    unfold leadingBit at *
    omega
  have hfraction : leadingBit + (shift * leadingBit + q) % leadingBit = q := by
    unfold leadingBit at *
    omega
  refine ⟨?_, isNegative_ofParts hsign, ?_⟩
  · rw [isFinite, exponentBits_ofParts hsign, hexponent]
    simp
    omega
  · rw [magnitude, exponentBits_ofParts hsign, fractionBits_ofParts hsign, hexponent, hfraction,
      if_neg (by omega), Nat.add_sub_cancel]

theorem hasParts_subnormal {q : Nat} (h : q < leadingBit) :
    HasParts (ofParts negative q) negative q := by
  have hsign : q < signBit := by
    unfold leadingBit at h
    unfold signBit
    omega
  have hexponent : q / leadingBit = 0 := Nat.div_eq_of_lt h
  refine ⟨?_, isNegative_ofParts hsign, ?_⟩
  · rw [isFinite, exponentBits_ofParts hsign, hexponent]
    rfl
  · rw [magnitude, exponentBits_ofParts hsign, fractionBits_ofParts hsign, hexponent,
      Nat.mod_eq_of_lt h, if_pos rfl]

/-- The last place of a number from `2 ^ (52 + shift)` units on is worth at least `2 ^ shift`. -/
theorem dvd_magnitude {x : Binary64} {shift : Nat} (h : 1 <<< (52 + shift) ≤ x.magnitude) :
    1 <<< shift ∣ x.magnitude := by
  have hfraction : x.fractionBits < 2 ^ 52 := Nat.mod_lt _ (by decide)
  rw [Nat.one_shiftLeft] at h ⊢
  unfold magnitude at h ⊢
  split
  · rename_i hexponent
    rw [if_pos hexponent] at h
    have hone : 2 ^ (52 + shift) < 2 ^ 52 := Nat.lt_of_le_of_lt h hfraction
    have hle : 2 ^ 52 ≤ 2 ^ (52 + shift) := Nat.pow_le_pow_right (by decide) (by omega)
    omega
  · rename_i hexponent
    rw [if_neg hexponent, Nat.shiftLeft_eq] at h
    rw [Nat.shiftLeft_eq]
    -- the significand has 53 bits, so the exponent makes up for the rest
    have hlt : 2 ^ (52 + shift) < 2 ^ (53 + (x.exponentBits - 1)) := by
      refine Nat.lt_of_le_of_lt h ?_
      rw [Nat.pow_add 2 53]
      refine Nat.mul_lt_mul_of_pos_right ?_ (Nat.two_pow_pos _)
      unfold leadingBit
      omega
    have hshift : shift ≤ x.exponentBits - 1 := by
      have := (Nat.pow_lt_pow_iff_right (by decide : 1 < 2)).mp hlt
      omega
    exact Nat.dvd_trans (Nat.pow_dvd_pow 2 hshift) (Nat.dvd_mul_left _ _)

/-! ## Rounding to a multiple -/

/-- The distance between two numbers of units. -/
def apart (a b : Nat) : Nat := (a - b) + (b - a)

theorem roundEven_of_dvd (hd : 0 < d) (h : d ∣ n) : roundEven n d = n / d := by
  have hmod : n % d = 0 := Nat.mod_eq_zero_of_dvd h
  rw [roundEven, hmod, if_pos (by simpa using hd)]

theorem roundEven_bounds (n d : Nat) : n / d ≤ roundEven n d ∧ roundEven n d ≤ n / d + 1 := by
  unfold roundEven
  split
  · omega
  · split <;> omega

/-- Rounding takes a multiple that is not farther away than any other one. -/
theorem roundEven_nearest (hd : 0 < d) (k : Nat) :
    apart (roundEven n d * d) n ≤ apart (k * d) n := by
  have hdiv := Nat.div_add_mod n d
  have hmod := Nat.mod_lt n hd
  have hfloor : n / d * d = d * (n / d) := Nat.mul_comm _ _
  have hceil : (n / d + 1) * d = d * (n / d) + d := by rw [Nat.mul_comm, Nat.mul_add, Nat.mul_one]
  -- every multiple is at most the floor or at least the next one
  have hk : k * d ≤ d * (n / d) ∨ d * (n / d) + d ≤ k * d := by
    rcases Nat.lt_or_ge (n / d) k with hlt | hge
    · right
      rw [← hceil]
      exact Nat.mul_le_mul_right d hlt
    · left
      rw [← hfloor]
      exact Nat.mul_le_mul_right d hge
  unfold apart roundEven
  split
  · rw [hfloor]
    omega
  · split
    · rw [hceil]
      omega
    · rcases Nat.mod_two_eq_zero_or_one (n / d) with heven | hodd
      · rw [heven, Nat.add_zero, hfloor]
        omega
      · rw [hodd, hceil]
        omega

/-! ## Rounding to a number -/

/-- Rounding takes a multiple of the unit of the last place. -/
theorem roundUnits_spec (hsmall : Nat.log2 n < 2097) :
    HasParts (ofParts negative (roundUnits n 1)) negative
      (roundEven n (1 <<< (Nat.log2 n - 52)) <<< (Nat.log2 n - 52)) := by
  have hround : roundUnits n 1 =
      min infinityBits
        ((Nat.log2 n - 52) * leadingBit + roundEven n (1 <<< (Nat.log2 n - 52))) := by
    simp only [roundUnits, Nat.div_one]
  rcases Nat.lt_or_ge n leadingBit with hn | hn
  · have hlog : Nat.log2 n - 52 = 0 := by
      rcases Nat.eq_zero_or_pos n with rfl | hpos
      · simp
      · have := (Nat.log2_lt (Nat.ne_of_gt hpos)).mpr (show n < 2 ^ 52 from hn)
        omega
    have hself : roundEven n (1 <<< 0) = n := by
      rw [Nat.shiftLeft_zero, roundEven_of_dvd Nat.one_pos (Nat.one_dvd n), Nat.div_one]
    have hbits : roundUnits n 1 = n := by
      rw [hround, hlog, hself]
      unfold leadingBit at hn
      simp [infinityBits, leadingBit]
      omega
    rw [hbits, hlog, hself, Nat.shiftLeft_zero]
    exact hasParts_subnormal hn
  · have hne : n ≠ 0 := by
      unfold leadingBit at hn
      omega
    have hlog : 52 ≤ Nat.log2 n := (Nat.le_log2 hne).mpr hn
    obtain ⟨shift, hshift⟩ : ∃ shift, Nat.log2 n = shift + 52 := ⟨Nat.log2 n - 52, by omega⟩
    obtain ⟨hlow, hhigh⟩ := (Nat.log2_eq_iff hne).mp hshift
    rw [hshift, Nat.add_sub_cancel, Nat.one_shiftLeft] at hround ⊢
    have hq : leadingBit ≤ n / 2 ^ shift ∧ n / 2 ^ shift < 2 * leadingBit := by
      rw [Nat.le_div_iff_mul_le (Nat.two_pow_pos shift),
        Nat.div_lt_iff_lt_mul (Nat.two_pow_pos shift),
        show leadingBit = 2 ^ 52 from rfl, ← Nat.pow_add, Nat.mul_assoc, ← Nat.pow_add,
        ← Nat.pow_succ', Nat.add_comm 52 shift]
      exact ⟨hlow, hhigh⟩
    obtain ⟨hfloor, hceil⟩ := roundEven_bounds n (2 ^ shift)
    have hbits : roundUnits n 1 = shift * leadingBit + roundEven n (2 ^ shift) := by
      rw [hround]
      unfold leadingBit at hq
      simp only [infinityBits, leadingBit]
      omega
    have hrange : shift + 1 < 2046 := by omega
    rw [hbits]
    generalize roundEven n (2 ^ shift) = r at hfloor hceil
    rcases Nat.lt_or_ge r (2 * leadingBit) with hr | hr
    · exact hasParts_normal (by omega) (by omega) hr
    · -- rounding up has given a power of two, which belongs to the next exponent
      obtain rfl : r = 2 * leadingBit := by omega
      have hnext := @hasParts_normal negative (shift + 1) leadingBit hrange (Nat.le_refl _)
        (by decide)
      rw [Nat.shiftLeft_succ_inside, Nat.add_mul, Nat.one_mul, Nat.add_assoc,
        ← Nat.two_mul] at hnext
      exact hnext

/-- No finite number is nearer to a number of units than the rounded one. -/
theorem roundUnits_nearest (hsmall : Nat.log2 n < 2097) (y : Binary64) :
    apart (ofParts negative (roundUnits n 1)).magnitude n ≤ apart y.magnitude n := by
  rw [(roundUnits_spec hsmall).magnitude]
  rcases Nat.lt_or_ge (Nat.log2 n) 52 with hlog | hlog
  · rw [show Nat.log2 n - 52 = 0 by omega, Nat.shiftLeft_zero, Nat.shiftLeft_zero,
      roundEven_of_dvd Nat.one_pos (Nat.one_dvd n)]
    simp [apart]
  have hne : n ≠ 0 := by
    rintro rfl
    simp at hlog
  obtain ⟨shift, hshift⟩ : ∃ shift, Nat.log2 n = 52 + shift := ⟨Nat.log2 n - 52, by omega⟩
  obtain ⟨hlow, -⟩ := (Nat.log2_eq_iff hne).mp hshift
  rw [hshift, Nat.add_sub_cancel_left, Nat.one_shiftLeft, Nat.shiftLeft_eq]
  rcases Nat.lt_or_ge y.magnitude (2 ^ (52 + shift)) with hy | hy
  · -- the number is farther away than the power of two below `n`
    have hpower := @roundEven_nearest n _ (Nat.two_pow_pos shift) (2 ^ 52)
    rw [← Nat.pow_add] at hpower
    unfold apart at *
    omega
  · rw [← Nat.one_shiftLeft] at hy
    obtain ⟨k, hk⟩ := dvd_magnitude hy
    rw [Nat.one_shiftLeft] at hk
    have hmultiple := @roundEven_nearest n _ (Nat.two_pow_pos shift) k
    rw [Nat.mul_comm, Nat.mul_comm k, ← hk, Nat.mul_comm] at hmultiple
    exact hmultiple

/-! ## Integers -/

theorem mul_one_shiftLeft (n k : Nat) : n * 1 <<< k = n <<< k := by
  rw [Nat.one_shiftLeft, Nat.shiftLeft_eq]

theorem mul_unitsPerOne (n : Nat) : n * unitsPerOne = n <<< 1074 := mul_one_shiftLeft n 1074

theorem log2_shiftLeft (hn : n ≠ 0) (k : Nat) : Nat.log2 (n <<< k) = Nat.log2 n + k := by
  induction k with
  | zero => rfl
  | succ k ih =>
    have hne : n <<< k ≠ 0 := by
      rw [Nat.shiftLeft_eq]
      exact Nat.mul_ne_zero hn (Nat.ne_of_gt (Nat.two_pow_pos k))
    rw [Nat.shiftLeft_succ, Nat.log2_two_mul hne, ih, Nat.add_assoc]

theorem one_shiftLeft_dvd {e k : Nat} (h : e ≤ k) (n : Nat) : 1 <<< e ∣ n <<< k := by
  rw [Nat.one_shiftLeft, Nat.shiftLeft_eq]
  exact Nat.dvd_trans (Nat.pow_dvd_pow 2 h) (Nat.dvd_mul_left _ _)

theorem log2_lt_of_lt {k : Nat} (hk : 0 < k) (h : n < 1 <<< k) : Nat.log2 n < k := by
  rw [Nat.one_shiftLeft] at h
  rcases Nat.eq_zero_or_pos n with rfl | hpos
  · simpa using hk
  · exact (Nat.log2_lt (Nat.ne_of_gt hpos)).mpr h

theorem log2_units_lt (h : n < 0x10000000000000000) : Nat.log2 (n * unitsPerOne) < 2097 := by
  rcases Nat.eq_zero_or_pos n with rfl | hpos
  · rw [Nat.zero_mul]
    decide
  · have hn : n ≠ 0 := Nat.ne_of_gt hpos
    have hlog : Nat.log2 n < 64 := log2_lt_of_lt (by decide) h
    rw [mul_unitsPerOne, log2_shiftLeft hn]
    omega

/-- No finite number of the same sign is nearer to a 64-bit integer than the one it is rounded
to. -/
theorem ofInt_nearest {n : Int} (h : n.natAbs < 0x10000000000000000) :
    (ofInt n).isFinite = true ∧ (ofInt n).isNegative = decide (n < 0) ∧
      ∀ y : Binary64, apart (ofInt n).magnitude (n.natAbs * unitsPerOne) ≤
        apart y.magnitude (n.natAbs * unitsPerOne) := by
  have hsmall := log2_units_lt h
  have hparts := @roundUnits_spec (decide (n < 0)) _ hsmall
  exact ⟨hparts.finite, hparts.sign, roundUnits_nearest hsmall⟩

theorem hasParts_of_dvd (hsmall : Nat.log2 n < 2097) (hdvd : 1 <<< (Nat.log2 n - 52) ∣ n) :
    HasParts (ofParts negative (roundUnits n 1)) negative n := by
  have hparts := @roundUnits_spec negative n hsmall
  have hpos : 0 < 1 <<< (Nat.log2 n - 52) := by
    rw [Nat.one_shiftLeft]
    exact Nat.two_pow_pos _
  rw [roundEven_of_dvd hpos hdvd, Nat.shiftLeft_eq, Nat.one_shiftLeft] at hparts
  rw [Nat.one_shiftLeft] at hdvd
  rwa [Nat.div_mul_cancel hdvd] at hparts

/-- Units of at most 53 significant bits need no rounding. -/
theorem hasParts_shiftLeft {shift : Nat} (hn : Nat.log2 n < 53) (hshift : shift < 2044) :
    HasParts (ofParts negative (roundUnits (n <<< shift) 1)) negative (n <<< shift) := by
  rcases Nat.eq_zero_or_pos n with rfl | hpos
  · rw [Nat.zero_shiftLeft]
    exact hasParts_of_dvd (by decide) (Nat.dvd_zero _)
  · have hlog := log2_shiftLeft (Nat.ne_of_gt hpos) shift
    exact hasParts_of_dvd (by omega) (one_shiftLeft_dvd (by omega) n)

/-- An integer of at most 53 bits is a double-precision number. -/
theorem denotes_ofInt {n : Int} (h : n.natAbs < 0x20000000000000) :
    HasParts (ofInt n) (decide (n < 0)) (n.natAbs * unitsPerOne) := by
  have hlog : Nat.log2 n.natAbs < 53 := log2_lt_of_lt (by decide) h
  have hparts := @hasParts_shiftLeft (decide (n < 0)) _ 1074 hlog (by decide)
  rwa [← mul_unitsPerOne] at hparts

end UplinkFlow.Binary64
