import UplinkFlow.Proofs.Binary64.Whole

/-!
# Numbers without a fraction

* `withSign`, `truncate_of_hasParts` — the integer that a number without a fraction is.
* `IsInteger`, `ofText?_integer` — the text of an integer denotes a decimal without a fraction.
* `hasParts_ofDecimal` — such a decimal is rounded to a number without a fraction.
-/

set_option autoImplicit false

namespace UplinkFlow.Binary64

variable {k : Int} {m : Nat} {x : Binary64} {negative : Bool}

/-! ## Integers with a sign -/

def withSign (negative : Bool) (m : Nat) : Int := if negative then -(m : Int) else m

@[simp] theorem natAbs_withSign (negative : Bool) (m : Nat) :
    (withSign negative m).natAbs = m := by
  cases negative <;> simp [withSign]

theorem withSign_mul (negative : Bool) (m unit : Nat) :
    withSign negative m * unit = withSign negative (m * unit) := by
  cases negative <;> simp [withSign]

theorem natAbs_sub_withSign (negative : Bool) (m m' : Nat) :
    (withSign negative m - withSign negative m').natAbs = apart m m' := by
  cases negative <;> simp only [withSign, apart, if_true, Bool.false_eq_true, if_false] <;> omega

theorem truncate_of_hasParts (h : HasParts x negative (m * unitsPerOne)) :
    x.truncate = withSign negative m := by
  have hunits : 0 < unitsPerOne := by decide +kernel
  rw [truncate, h.magnitude, h.sign, Nat.mul_div_cancel m hunits]
  rfl

theorem log2_lt (h : m < 2 ^ 96) : Nat.log2 m < 1023 := by
  rw [← Nat.one_shiftLeft] at h
  have hlog := log2_lt_of_lt (by decide) h
  omega

/-! ## Texts -/

/-- The text of an integer: digits behind an optional sign. -/
inductive IsInteger : List Char → Int → Prop where
  | plain {ds : List Char} (hne : ds ≠ []) (hall : ∀ c ∈ ds, isDigit c = true) :
    IsInteger ds (digitsValue ds)
  | plus {ds : List Char} (hne : ds ≠ []) (hall : ∀ c ∈ ds, isDigit c = true) :
    IsInteger ('+' :: ds) (digitsValue ds)
  | minus {ds : List Char} (hne : ds ≠ []) (hall : ∀ c ∈ ds, isDigit c = true) :
    IsInteger ('-' :: ds) (-(digitsValue ds : Int))

theorem unsigned?_digits {ds : List Char} (hne : ds ≠ []) (hall : ∀ c ∈ ds, isDigit c = true) :
    unsigned? negative ds = some (ofDecimal negative (digitsValue ds) 0) := by
  have h := @unsigned?_whole negative ds [] 0 hne hall .nil nofun rfl
  rwa [List.append_nil] at h

theorem ofText?_integer {s : String} (h : IsInteger s.toList k) :
    ∃ negative m, k = withSign negative m ∧
      ofText? s = some (ofDecimal negative m 0) := by
  have hhead {ds : List Char} (hne : ds ≠ []) (hall : ∀ c ∈ ds, isDigit c = true) :
      ∃ c cs, ds = c :: cs ∧ isDigit c = true := by
    obtain ⟨c, cs, rfl⟩ := List.exists_cons_of_ne_nil hne
    exact ⟨c, cs, rfl, hall c List.mem_cons_self⟩
  generalize hs : s.toList = cs at h
  cases h with
  | plain hne hall =>
    obtain ⟨c, cs, rfl, hc⟩ := hhead hne hall
    exact ⟨false, _, rfl, by rw [ofText?_of_digit hs hc, unsigned?_digits hne hall]⟩
  | plus hne hall =>
    obtain ⟨c, cs, rfl, hc⟩ := hhead hne hall
    exact ⟨false, _, rfl, by rw [ofText?_of_plus hs hc, unsigned?_digits hne hall]⟩
  | minus hne hall =>
    obtain ⟨c, cs, rfl, hc⟩ := hhead hne hall
    exact ⟨true, _, rfl, by rw [ofText?_of_minus hs hc, unsigned?_digits hne hall]⟩

/-- A decimal without a fraction is rounded to a number without one. -/
theorem hasParts_ofDecimal (hm : m < 0x10000000000000000) :
    HasParts (ofDecimal negative m 0) negative (nearestWhole m * unitsPerOne) := by
  have hlog : Nat.log2 m < 1023 := log2_lt (Nat.lt_trans hm (by decide))
  have hparts := @hasParts_roundUnits m negative hlog
  rcases Nat.eq_zero_or_pos m with rfl | hpos
  · rw [Nat.zero_mul, roundUnits_of_lt (by decide)] at hparts
    simpa [ofDecimal] using hparts
  · have hdigits : (Text.digits m).length ≤ 20 :=
      Text.length_digits_le (Nat.ne_of_gt hpos) (Nat.lt_trans hm (by decide))
    have hdecimal : ofDecimal negative m 0 = ofRatio negative m 1 := by
      unfold ofDecimal
      dsimp only
      rw [if_neg (by omega), if_neg (by omega), if_pos (Int.le_refl 0)]
      exact congrArg (ofRatio negative · 1) (Nat.mul_one m)
    rw [hdecimal]
    exact hparts

end UplinkFlow.Binary64
