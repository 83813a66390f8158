import Mathlib.Tactic.Ring
import UplinkFlow.Binary64.FreeForm
import UplinkFlow.Proofs.Text.Decimal

/-!
# Runs of decimal digits

* `digitsValue_digits` — the digits of a number denote it.
* `lt_pow_length_digits`, `pow_le_of_digits` — how many digits a number has.
* `digits_mul_pow` — a factor of ten appends a zero.
* `Stops`, `takeWhile_of_stops`, `dropWhile_of_stops` — a run of characters and what follows it.
-/

set_option autoImplicit false

namespace UplinkFlow.Text

open Binary64 (digitsValue isDigit)

/-! ## Values -/

theorem foldl_digits (cs : List Char) (acc : Nat) :
    cs.foldl (fun acc c => acc * 10 + (digit? c).getD 0) acc =
      acc * 10 ^ cs.length + digitsValue cs := by
  induction cs generalizing acc with
  | nil => simp [digitsValue]
  | cons c cs ih =>
    rw [digitsValue, List.foldl_cons, ih, List.foldl_cons, ih, List.length_cons]
    ring

theorem digitsValue_append (cs ds : List Char) :
    digitsValue (cs ++ ds) = digitsValue cs * 10 ^ ds.length + digitsValue ds := by
  rw [digitsValue, List.foldl_append, foldl_digits]
  rfl

theorem digitsValue_digits (n : Nat) : digitsValue (digits n) = n := by
  rw [digits]
  split
  · rename_i hn
    simp [digitsValue, digit?_digitChar n hn]
  · rw [digitsValue_append, digitsValue_digits (n / 10)]
    simp [digitsValue, digit?_digitChar (n % 10) (by omega)]
    omega
termination_by n
decreasing_by omega

theorem digitsValue_zeros (k : Nat) : digitsValue (List.replicate k '0') = 0 := by
  induction k with
  | zero => rfl
  | succ k ih => simpa [List.replicate_succ, digitsValue, digit?] using ih

theorem digitsValue_append_zeros (cs : List Char) (k : Nat) :
    digitsValue (cs ++ List.replicate k '0') = digitsValue cs * 10 ^ k := by
  rw [digitsValue_append, digitsValue_zeros, List.length_replicate, Nat.add_zero]

theorem digits_inj {n m : Nat} (h : digits n = digits m) : n = m := by
  rw [← digitsValue_digits n, h, digitsValue_digits]

theorem isDigit_digits {n : Nat} {c : Char} (h : c ∈ digits n) : isDigit c = true := by
  obtain ⟨d, hd, rfl⟩ := mem_digits n h
  simp [isDigit, digit?_digitChar d hd]

/-! ## Lengths -/

theorem lt_pow_length_digits (n : Nat) : n < 10 ^ (digits n).length := by
  rw [digits]
  split
  · simpa
  · have ih := lt_pow_length_digits (n / 10)
    rw [List.length_append, List.length_singleton, pow_succ]
    omega
termination_by n
decreasing_by omega

theorem pow_le_of_digits {n : Nat} (h : n ≠ 0) : 10 ^ ((digits n).length - 1) ≤ n := by
  rw [digits]
  split
  · simp
    omega
  · have ih := pow_le_of_digits (n := n / 10) (by omega)
    have hpos : 0 < (digits (n / 10)).length := List.length_pos_iff.mpr (digits_ne_nil _)
    rw [List.length_append, List.length_singleton, Nat.add_sub_cancel]
    calc 10 ^ (digits (n / 10)).length
        = 10 ^ ((digits (n / 10)).length - 1) * 10 := by
          rw [← pow_succ, Nat.sub_add_cancel hpos]
      _ ≤ n / 10 * 10 := Nat.mul_le_mul_right 10 ih
      _ ≤ n := by omega
termination_by n
decreasing_by omega

theorem lt_length_digits {n k : Nat} (h : 10 ^ k ≤ n) : k < (digits n).length :=
  (Nat.pow_lt_pow_iff_right (by decide)).mp (Nat.lt_of_le_of_lt h (lt_pow_length_digits n))

theorem length_digits_le {n k : Nat} (hn : n ≠ 0) (h : n < 10 ^ k) : (digits n).length ≤ k := by
  have hlt := (Nat.pow_lt_pow_iff_right (by decide)).mp (Nat.lt_of_le_of_lt (pow_le_of_digits hn) h)
  omega

/-- A factor of ten appends a zero. -/
theorem digits_mul_pow {n : Nat} (hn : n ≠ 0) (k : Nat) :
    digits (n * 10 ^ k) = digits n ++ List.replicate k '0' := by
  induction k with
  | zero => simp
  | succ k ih =>
    have hpos : 0 < n * 10 ^ k := Nat.mul_pos (Nat.pos_of_ne_zero hn) (Nat.pow_pos (by decide))
    rw [pow_succ, ← Nat.mul_assoc, digits, if_neg (by omega), Nat.mul_div_cancel _ (by decide),
      Nat.mul_mod_left, ih, List.replicate_succ', List.append_assoc]
    rfl

/-! ## Where a run ends -/

/-- No run of a kind of characters goes on where `cs` begins. -/
def Stops (p : Char → Bool) (cs : List Char) : Prop := ∀ c ∈ cs.head?, p c = false

variable {p : Char → Bool} {run rest : List Char}

theorem Stops.nil : Stops p [] := by
  simp [Stops]

theorem Stops.cons {c : Char} (h : p c = false) : Stops p (c :: rest) := by
  simpa [Stops] using h

theorem takeWhile_of_stops (hrun : ∀ c ∈ run, p c = true) (hrest : Stops p rest) :
    (run ++ rest).takeWhile p = run := by
  rw [List.takeWhile_append_of_pos hrun]
  cases rest with
  | nil => simp
  | cons c cs => simp [hrest c (by simp)]

theorem dropWhile_of_stops (hrun : ∀ c ∈ run, p c = true) (hrest : Stops p rest) :
    (run ++ rest).dropWhile p = rest := by
  rw [List.dropWhile_append_of_pos hrun]
  cases rest with
  | nil => rfl
  | cons c cs => simp [hrest c (by simp)]

end UplinkFlow.Text
