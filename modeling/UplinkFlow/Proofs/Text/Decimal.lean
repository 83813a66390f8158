import UplinkFlow.Text.Blank
import UplinkFlow.Text.Decimal

/-!
# Decimal text reads back

* `readDigits_digits`, `readWord_decimal` — the decimal text of a number within the bound is read
  as that number.
* `trim_decimal` — decimal text has no blank at its ends.
-/

set_option autoImplicit false

namespace UplinkFlow.Text

/-! ## Digits -/

theorem digit?_digitChar : ∀ d, d < 10 → digit? (digitChar d) = some d := by decide

theorem isBlank_digitChar : ∀ d, d < 10 → isBlank (digitChar d) = false := by decide

theorem digitChar_ne_plus : ∀ d, d < 10 → digitChar d ≠ '+' := by decide

/-- Every character of decimal text is the digit of a value below ten. -/
theorem mem_digits {c : Char} (n : Nat) (h : c ∈ digits n) : ∃ d < 10, c = digitChar d := by
  rw [digits] at h
  split at h
  · exact ⟨n, by assumption, by simpa using h⟩
  · rcases List.mem_append.mp h with h | h
    · exact mem_digits (n / 10) h
    · exact ⟨n % 10, by omega, by simpa using h⟩
termination_by n
decreasing_by omega

theorem digits_ne_nil (n : Nat) : digits n ≠ [] := by
  rw [digits]; split <;> simp

/-- A digit that keeps the number within the bound is appended to it. -/
theorem pushDigit_digitChar {bound acc d : Nat} (hd : d < 10) (hb : acc * 10 + d ≤ bound) :
    pushDigit bound acc (digitChar d) = .ok (acc * 10 + d) := by
  simp [pushDigit, digit?_digitChar d hd, hb]

theorem foldlM_digits {bound : Nat} (n : Nat) (h : n ≤ bound) :
    (digits n).foldlM (pushDigit bound) 0 = .ok n := by
  rw [digits]
  split
  · rename_i hn
    have : pushDigit bound 0 (digitChar n) = .ok (0 * 10 + n) := pushDigit_digitChar hn (by omega)
    simpa [List.foldlM_cons] using this
  · have ih : (digits (n / 10)).foldlM (pushDigit bound) 0 = .ok (n / 10) :=
      foldlM_digits (n / 10) (by omega)
    have hlast : n / 10 * 10 + n % 10 = n := by omega
    have : pushDigit bound (n / 10) (digitChar (n % 10)) = .ok (n / 10 * 10 + n % 10) :=
      pushDigit_digitChar (by omega) (by omega)
    rw [hlast] at this
    rw [List.foldlM_append, ih]
    simp [List.foldlM_cons, bind, Except.bind, this, pure, Except.pure]
termination_by n
decreasing_by omega

/-! ## Whole texts -/

theorem readDigits_digits {bound n : Nat} (h : n ≤ bound) :
    readDigits bound (digits n) = .ok n := by
  cases hd : digits n with
  | nil => exact absurd hd (digits_ne_nil n)
  | cons c cs => rw [readDigits, ← hd, foldlM_digits n h]; simp

/-- Decimal text never begins with a sign. -/
theorem readNat_digits {bound n : Nat} (h : n ≤ bound) : readNat bound (digits n) = .ok n := by
  cases hd : digits n with
  | nil => exact absurd hd (digits_ne_nil n)
  | cons c cs =>
    obtain ⟨d, hlt, rfl⟩ := mem_digits n (hd ▸ List.mem_cons_self : c ∈ digits n)
    have hplus := digitChar_ne_plus d hlt
    rw [readNat.eq_def]
    split
    · simp_all
    · simp_all
    · rw [← hd]; exact readDigits_digits h

theorem readWord_decimal {n : Nat} (h : n ≤ maxWord) : readWord (decimal n) = .ok n := by
  simpa [readWord, decimal] using readNat_digits h

theorem decimal_ne_empty (n : Nat) : decimal n ≠ "" := by
  intro h
  exact digits_ne_nil n (by simpa [decimal] using congrArg String.toList h)

/-! ## Blanks -/

theorem dropWhile_isBlank_of_all {cs : List Char} (h : ∀ c ∈ cs, isBlank c = false) :
    cs.dropWhile isBlank = cs := by
  cases cs with
  | nil => rfl
  | cons c cs => rw [List.dropWhile_cons, if_neg]; simp [h c List.mem_cons_self]

theorem trim_eq_self {s : String} (h : ∀ c ∈ s.toList, isBlank c = false) : trim s = s := by
  have hrev : ∀ c ∈ s.toList.reverse, isBlank c = false := fun c hc => h c (by simpa using hc)
  unfold trim trimChars
  rw [dropWhile_isBlank_of_all h, dropWhile_isBlank_of_all hrev]
  simp

theorem trim_decimal (n : Nat) : trim (decimal n) = decimal n := by
  apply trim_eq_self
  intro c hc
  obtain ⟨d, hlt, rfl⟩ := mem_digits n (by simpa [decimal] using hc)
  exact isBlank_digitChar d hlt

end UplinkFlow.Text
