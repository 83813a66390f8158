import UplinkFlow.Text.Hex

/-!
# Hexadecimal digits read back

* `hexValue_lt` — digits denote a number of at most four bits each.
* `hexValue_hexPadded` — padded digits denote the number that they were written for.
* `length_hexPadded` — padding gives at least the width, and no more than the number needs.
* `hexPadded_eq_iff` — two padded numbers are the same text exactly if they are the same number in
  the same number of digits.
* `hexPadded_hexValue_eq_iff` — digits are written as they were read exactly if none of them is a
  capital letter.
-/

set_option autoImplicit false

namespace UplinkFlow.Text

theorem hexDigit?_hexDigitChar : ∀ d, d < 16 → hexDigit? (hexDigitChar d) = some d := by decide

theorem hexDigit?_lt {c : Char} {d : Nat} (h : hexDigit? c = some d) : d < 16 := by
  unfold hexDigit? at h
  split at h
  · rename_i hdigit
    obtain rfl := Option.some.inj h
    have hle : c.toNat ≤ 57 := hdigit.2
    show c.toNat - 48 < 16
    omega
  · split at h
    · rename_i hlower
      obtain rfl := Option.some.inj h
      have hle : c.toNat ≤ 102 := hlower.2
      show c.toNat - 97 + 10 < 16
      omega
    · split at h
      · rename_i hupper
        obtain rfl := Option.some.inj h
        have hle : c.toNat ≤ 70 := hupper.2
        show c.toNat - 65 + 10 < 16
        omega
      · cases h

theorem toNat_lt_of_hexDigit? {c : Char} {d : Nat} (h : hexDigit? c = some d) : c.toNat < 128 := by
  unfold hexDigit? at h
  split at h
  · rename_i hrange
    exact Nat.lt_of_le_of_lt hrange.2 (by decide)
  · split at h
    · rename_i hrange
      exact Nat.lt_of_le_of_lt hrange.2 (by decide)
    · split at h
      · rename_i hrange
        exact Nat.lt_of_le_of_lt hrange.2 (by decide)
      · cases h

/-! ## Values -/

theorem hexValue_append_singleton (cs : List Char) (c : Char) :
    hexValue (cs ++ [c]) = hexValue cs * 16 + (hexDigit? c).getD 0 := by
  simp [hexValue, List.foldl_append]

theorem hexValue_lt (cs : List Char) : hexValue cs < 1 <<< (4 * cs.length) := by
  have hfold : ∀ (cs : List Char) (acc : Nat),
      cs.foldl (fun acc c => acc * 16 + (hexDigit? c).getD 0) acc <
        (acc + 1) <<< (4 * cs.length) := by
    intro cs
    induction cs with
    | nil => simp
    | cons c cs ih =>
      intro acc
      have hdigit : (hexDigit? c).getD 0 < 16 := by
        cases hc : hexDigit? c with
        | none => simp
        | some d => exact hexDigit?_lt hc
      have hle : acc * 16 + (hexDigit? c).getD 0 + 1 ≤ (acc + 1) <<< 4 := by
        rw [Nat.shiftLeft_eq]
        omega
      calc (c :: cs).foldl (fun acc c => acc * 16 + (hexDigit? c).getD 0) acc
          < (acc * 16 + (hexDigit? c).getD 0 + 1) <<< (4 * cs.length) := ih _
        _ ≤ ((acc + 1) <<< 4) <<< (4 * cs.length) := by
          rw [Nat.shiftLeft_eq, Nat.shiftLeft_eq ((acc + 1) <<< 4)]
          exact Nat.mul_le_mul_right _ hle
        _ = (acc + 1) <<< (4 * (c :: cs).length) := by
          rw [← Nat.shiftLeft_add, List.length_cons, Nat.mul_succ, Nat.add_comm 4]
  simpa [hexValue] using hfold cs 0

theorem hexValue_hexDigits (n : Nat) : hexValue (hexDigits n) = n := by
  rw [hexDigits]
  split
  · rename_i hn
    simp [hexValue, hexDigit?_hexDigitChar n hn]
  · rw [hexValue_append_singleton, hexValue_hexDigits (n / 16),
      hexDigit?_hexDigitChar (n % 16) (by omega), Option.getD_some]
    omega
termination_by n
decreasing_by omega

theorem hexValue_zeros_append (k : Nat) (cs : List Char) :
    hexValue (List.replicate k '0' ++ cs) = hexValue cs := by
  induction k with
  | zero => rfl
  | succ k ih => simpa [List.replicate_succ, hexValue, hexDigit?] using ih

theorem hexValue_hexPadded (width n : Nat) : hexValue (hexPadded width n) = n := by
  rw [hexPadded, hexValue_zeros_append, hexValue_hexDigits]

/-! ## Texts -/

theorem length_hexPadded (width n : Nat) :
    (hexPadded width n).length = max width (hexDigits n).length := by
  simp only [hexPadded, List.length_append, List.length_replicate]
  omega

/-- The number of zeros is what the number needs to reach its length. -/
theorem hexPadded_eq_of_length {width n : Nat} {k : Nat}
    (h : max width (hexDigits n).length = k) :
    hexPadded width n = List.replicate (k - (hexDigits n).length) '0' ++ hexDigits n := by
  subst h
  rw [hexPadded]
  congr 2
  omega

theorem hexPadded_eq_iff {v w m n : Nat} :
    hexPadded v m = hexPadded w n ↔
      m = n ∧ max v (hexDigits m).length = max w (hexDigits n).length := by
  constructor
  · intro h
    refine ⟨?_, ?_⟩
    · rw [← hexValue_hexPadded v m, h, hexValue_hexPadded]
    · rw [← length_hexPadded, h, length_hexPadded]
  · rintro ⟨rfl, h⟩
    rw [hexPadded_eq_of_length h, hexPadded_eq_of_length rfl]

/-! ## Letter case -/

/-- A digit that is no capital letter is the one in which its value is written. -/
theorem hexDigitChar_of_hexDigit? {c : Char} {d : Nat} (h : hexDigit? c = some d)
    (hcapital : ¬ ('A' ≤ c ∧ c ≤ 'F')) : hexDigitChar d = c := by
  unfold hexDigit? at h
  split at h
  · rename_i hdigit
    obtain rfl := Option.some.inj h
    have hle : 48 ≤ c.toNat ∧ c.toNat ≤ 57 := ⟨hdigit.1, hdigit.2⟩
    show hexDigitChar (c.toNat - 48) = c
    rw [hexDigitChar, if_pos (by omega)]
    show Char.ofNat (48 + (c.toNat - 48)) = c
    rw [show 48 + (c.toNat - 48) = c.toNat by omega, Char.ofNat_toNat]
  · split at h
    · rename_i hlower
      obtain rfl := Option.some.inj h
      have hle : 97 ≤ c.toNat ∧ c.toNat ≤ 102 := ⟨hlower.1, hlower.2⟩
      show hexDigitChar (c.toNat - 97 + 10) = c
      rw [hexDigitChar, if_neg (by omega)]
      show Char.ofNat (97 + (c.toNat - 97 + 10 - 10)) = c
      rw [show 97 + (c.toNat - 97 + 10 - 10) = c.toNat by omega, Char.ofNat_toNat]
    · cases h

theorem not_capital_of_mem_hexDigits {c : Char} (n : Nat) (h : c ∈ hexDigits n) :
    ¬ ('A' ≤ c ∧ c ≤ 'F') := by
  have hchar : ∀ d, d < 16 → ¬ ('A' ≤ hexDigitChar d ∧ hexDigitChar d ≤ 'F') := by decide
  rw [hexDigits] at h
  split at h
  · rename_i hn
    rw [List.mem_singleton.mp h]
    exact hchar n hn
  · rcases List.mem_append.mp h with h | h
    · exact not_capital_of_mem_hexDigits (n / 16) h
    · rw [List.mem_singleton.mp h]
      exact hchar (n % 16) (by omega)
termination_by n
decreasing_by omega

theorem hexPadded_succ {width d : Nat} (hwidth : 0 < width) (hd : d < 16) (n : Nat) :
    hexPadded (width + 1) (n * 16 + d) = hexPadded width n ++ [hexDigitChar d] := by
  by_cases hn : n = 0
  · subst hn
    have hzero : hexDigits 0 = ['0'] := by rw [hexDigits]; rfl
    have hone : hexDigits (0 * 16 + d) = [hexDigitChar d] := by
      rw [hexDigits, if_pos (by omega), Nat.zero_mul, Nat.zero_add]
    obtain ⟨k, rfl⟩ : ∃ k, width = k + 1 := ⟨width - 1, by omega⟩
    rw [hexPadded, hexPadded, hzero, hone]
    simp [List.replicate_succ']
  · have hmore : hexDigits (n * 16 + d) = hexDigits n ++ [hexDigitChar d] := by
      rw [hexDigits, if_neg (by omega), show (n * 16 + d) / 16 = n by omega,
        show (n * 16 + d) % 16 = d by omega]
    rw [hexPadded, hexPadded, hmore, List.length_append, List.length_singleton,
      Nat.add_sub_add_right, List.append_assoc]

/-- Digits that are read behind a number are written behind it. -/
theorem hexPadded_foldl {cs : List Char}
    (hcs : ∀ c ∈ cs, isHexDigit c = true ∧ ¬ ('A' ≤ c ∧ c ≤ 'F')) {width : Nat}
    (hwidth : 0 < width) (n : Nat) :
    hexPadded (width + cs.length) (cs.foldl (fun acc c => acc * 16 + (hexDigit? c).getD 0) n) =
      hexPadded width n ++ cs := by
  induction cs generalizing width n with
  | nil => simp
  | cons c cs ih =>
    obtain ⟨⟨hdigit, hcapital⟩, hrest⟩ := List.forall_mem_cons.mp hcs
    obtain ⟨d, hd⟩ := Option.isSome_iff_exists.mp hdigit
    rw [List.foldl_cons, List.length_cons, Nat.add_comm cs.length, ← Nat.add_assoc,
      ih hrest (Nat.succ_pos width), hd, Option.getD_some, hexPadded_succ hwidth (hexDigit?_lt hd),
      hexDigitChar_of_hexDigit? hd hcapital, List.append_assoc, List.singleton_append]

/-- **Digits are written as they were read exactly if none of them is a capital letter.** -/
theorem hexPadded_hexValue_eq_iff {c : Char} {cs : List Char}
    (hdigits : ∀ x ∈ c :: cs, isHexDigit x = true) :
    hexPadded (c :: cs).length (hexValue (c :: cs)) = c :: cs ↔
      ∀ x ∈ c :: cs, ¬ ('A' ≤ x ∧ x ≤ 'F') := by
  constructor
  · intro h x hx
    rw [← h, hexPadded, List.mem_append] at hx
    rcases hx with hx | hx
    · rw [List.eq_of_mem_replicate hx]
      decide
    · exact not_capital_of_mem_hexDigits _ hx
  · intro hcapital
    obtain ⟨d, hd⟩ := Option.isSome_iff_exists.mp (hdigits c List.mem_cons_self)
    have hfirst : hexPadded 1 d = [c] := by
      rw [hexPadded, hexDigits, if_pos (hexDigit?_lt hd),
        hexDigitChar_of_hexDigit? hd (hcapital c List.mem_cons_self)]
      rfl
    have hrest : ∀ x ∈ cs, isHexDigit x = true ∧ ¬ ('A' ≤ x ∧ x ≤ 'F') := by
      intro x hx
      exact ⟨hdigits x (List.mem_cons_of_mem c hx), hcapital x (List.mem_cons_of_mem c hx)⟩
    rw [List.length_cons, Nat.add_comm, hexValue, List.foldl_cons,
      hexPadded_foldl hrest Nat.one_pos, hd, Option.getD_some, Nat.zero_mul, Nat.zero_add, hfirst,
      List.singleton_append]

end UplinkFlow.Text
