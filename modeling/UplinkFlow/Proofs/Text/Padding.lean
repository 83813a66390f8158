import Mathlib.Data.List.Induction
import Mathlib.Tactic.Ring
import UplinkFlow.Proofs.Text.Hexadecimal

/-!
# Which digits a padded number has

* `Spells` — digits of either case spell a number; `spells_iff` — that is the number that they are
  read as.
* `length_hexDigits_le_iff` — how many digits a number has.
* `IsPadded` — lower-case digits that spell a number, padded with zeros to a width;
  `isPadded_iff` — **there is one such run of digits, the one that is written.**
* `hexPadded_of_le` — a width that a smaller number has filled makes no difference.
-/

set_option autoImplicit false

namespace UplinkFlow.Text

variable {cs : List Char} {c : Char} {d n width : Nat}

/-! ## Spelling -/

/-- The hexadecimal digits in lower case, in the order of their values. -/
def lowerDigits : List Char :=
  ['0', '1', '2', '3', '4', '5', '6', '7', '8', '9', 'a', 'b', 'c', 'd', 'e', 'f']

/-- Hexadecimal digits of either case, the most significant first, spell a number. -/
inductive Spells : List Char → Nat → Prop where
  | nil : Spells [] 0
  | snoc {cs : List Char} {n d : Nat} {c : Char} (front : Spells cs n)
      (digit : lowerDigits[d]? = some c.toLower) : Spells (cs ++ [c]) (n * 16 + d)

/-- A character is a digit with a value exactly if its lower-case form is listed at that place. -/
theorem hexDigit?_eq_some_iff : hexDigit? c = some d ↔ lowerDigits[d]? = some c.toLower := by
  have hascii : ∀ n < 128, ∀ d < 16, hexDigit? (Char.ofNat n) = some d ↔
      lowerDigits[d]? = some (Char.ofNat n).toLower := by
    decide +kernel
  have hlisted : (lowerDigits.all fun x => decide (x.toNat < 128)) = true := by decide
  have hother : 128 ≤ c.toNat → c.toLower = c := by
    intro hc
    refine dif_neg ?_
    rintro ⟨-, hcapital⟩
    have hcapital : c.toNat ≤ 90 := hcapital
    omega
  constructor
  · intro h
    have hself := hascii c.toNat (toNat_lt_of_hexDigit? h) d (hexDigit?_lt h)
    rw [Char.ofNat_toNat] at hself
    exact hself.mp h
  · intro h
    have hc : c.toNat < 128 := by
      rcases Nat.lt_or_ge c.toNat 128 with hc | hc
      · exact hc
      · rw [hother hc] at h
        exact of_decide_eq_true (List.all_eq_true.mp hlisted c (List.mem_of_getElem? h))
    have hself := hascii c.toNat hc d (List.getElem?_eq_some_iff.mp h).1
    rw [Char.ofNat_toNat] at hself
    exact hself.mpr h

/-- **Digits spell the number that they are read as**, and nothing else spells one. -/
theorem spells_iff : Spells cs n ↔ (∀ c ∈ cs, isHexDigit c = true) ∧ hexValue cs = n := by
  constructor
  · intro h
    induction h with
    | nil => exact ⟨by simp, rfl⟩
    | @snoc cs n d c front digit ih =>
      obtain ⟨hdigits, rfl⟩ := ih
      have hc : hexDigit? c = some d := hexDigit?_eq_some_iff.mpr digit
      refine ⟨?_, by rw [hexValue_append_singleton, hc, Option.getD_some]⟩
      intro x hx
      rcases List.mem_append.mp hx with hx | hx
      · exact hdigits x hx
      · rw [List.mem_singleton.mp hx, isHexDigit, hc, Option.isSome_some]
  · rintro ⟨hdigits, rfl⟩
    induction cs using List.reverseRecOn with
    | nil => exact .nil
    | append_singleton cs c ih =>
      obtain ⟨d, hd⟩ := Option.isSome_iff_exists.mp (hdigits c (by simp))
      rw [hexValue_append_singleton, hd, Option.getD_some]
      exact .snoc (ih fun x hx => hdigits x (List.mem_append_left _ hx))
        (hexDigit?_eq_some_iff.mp hd)

/-! ## Lengths -/

theorem length_hexDigits_pos (n : Nat) : 0 < (hexDigits n).length := by
  rw [hexDigits]
  split <;> simp

/-- A number has at most `k` digits exactly if it is below the power of sixteen. -/
theorem length_hexDigits_le_iff {k : Nat} (hk : 0 < k) (n : Nat) :
    (hexDigits n).length ≤ k ↔ n < 16 ^ k := by
  obtain ⟨k, rfl⟩ : ∃ j, k = j + 1 := ⟨k - 1, by omega⟩
  have hpow : 0 < 16 ^ k := Nat.pow_pos (by decide)
  rw [hexDigits, pow_succ]
  split
  · rename_i hn
    rw [List.length_singleton]
    omega
  · rename_i hn
    rw [List.length_append, List.length_singleton, Nat.add_le_add_iff_right]
    rcases Nat.eq_zero_or_pos k with rfl | hk
    · have hfront := length_hexDigits_pos (n / 16)
      rw [pow_zero]
      omega
    · rw [length_hexDigits_le_iff hk (n / 16), Nat.div_lt_iff_lt_mul (by decide)]
termination_by n
decreasing_by omega

theorem length_hexDigits_mono {m : Nat} (h : m ≤ n) :
    (hexDigits m).length ≤ (hexDigits n).length := by
  have hn := (length_hexDigits_le_iff (length_hexDigits_pos n) n).mp (Nat.le_refl _)
  exact (length_hexDigits_le_iff (length_hexDigits_pos n) m).mpr (Nat.lt_of_le_of_lt h hn)

/-- A width that a smaller number has filled is as good as the width before. -/
theorem hexPadded_of_le {m : Nat} (h : m ≤ n) (width : Nat) :
    hexPadded (hexPadded width m).length n = hexPadded width n := by
  have hmono := length_hexDigits_mono h
  rw [hexPadded_eq_iff, length_hexPadded]
  exact ⟨rfl, by omega⟩

/-! ## Padding -/

/-- Digits are those of a number in lower case, with zeros before them up to a width.

* `lower`, `spells` — they are lower-case digits and spell the number;
* `wide` — they fill the width;
* `noMore` — beyond the width there is no zero before the number. -/
structure IsPadded (width n : Nat) (cs : List Char) : Prop where
  lower : ∀ c ∈ cs, c ∈ lowerDigits
  spells : Spells cs n
  wide : width ≤ cs.length
  noMore : width < cs.length → cs.head? ≠ some '0'

theorem mem_lowerDigits (h : c ∈ lowerDigits) : isHexDigit c = true ∧ ¬ ('A' ≤ c ∧ c ≤ 'F') := by
  have hlisted : (lowerDigits.all fun x =>
      decide (isHexDigit x = true ∧ ¬ ('A' ≤ x ∧ x ≤ 'F'))) = true := by decide
  exact of_decide_eq_true (List.all_eq_true.mp hlisted c h)

theorem mem_lowerDigits_of_mem_hexDigits (n : Nat) (h : c ∈ hexDigits n) : c ∈ lowerDigits := by
  have hchar : ∀ d < 16, hexDigitChar d ∈ lowerDigits := by decide
  rw [hexDigits] at h
  split at h
  · rename_i hn
    rw [List.mem_singleton.mp h]
    exact hchar n hn
  · rcases List.mem_append.mp h with h | h
    · exact mem_lowerDigits_of_mem_hexDigits (n / 16) h
    · rw [List.mem_singleton.mp h]
      exact hchar (n % 16) (by omega)
termination_by n
decreasing_by omega

theorem mem_lowerDigits_of_mem_hexPadded (h : c ∈ hexPadded width n) : c ∈ lowerDigits := by
  rw [hexPadded, List.mem_append] at h
  rcases h with h | h
  · rw [List.eq_of_mem_replicate h]
    decide
  · exact mem_lowerDigits_of_mem_hexDigits n h

theorem head?_hexDigits (n : Nat) (hn : n ≠ 0) : (hexDigits n).head? ≠ some '0' := by
  have hchar : ∀ d < 16, d ≠ 0 → some (hexDigitChar d) ≠ some '0' := by decide
  rw [hexDigits]
  split
  · rename_i hlt
    exact hchar n hlt hn
  · have hfront := List.length_pos_iff.mp (length_hexDigits_pos (n / 16))
    obtain ⟨c, rest, hdigits⟩ := List.exists_cons_of_ne_nil hfront
    have ih := head?_hexDigits (n / 16) (by omega)
    rw [hdigits] at ih ⊢
    exact ih
termination_by n
decreasing_by omega

theorem isPadded_hexPadded (hwidth : 0 < width) (n : Nat) :
    IsPadded width n (hexPadded width n) where
  lower _ := mem_lowerDigits_of_mem_hexPadded
  spells := spells_iff.mpr
    ⟨fun _ hc => (mem_lowerDigits (mem_lowerDigits_of_mem_hexPadded hc)).1, hexValue_hexPadded ..⟩
  wide := by
    rw [length_hexPadded]
    exact Nat.le_max_left ..
  noMore := by
    intro hlt
    rw [length_hexPadded] at hlt
    have hzero : n ≠ 0 := by
      rintro rfl
      have hone : (hexDigits 0).length = 1 := by rw [hexDigits]; rfl
      omega
    rw [hexPadded, Nat.sub_eq_zero_of_le (by omega), List.replicate_zero, List.nil_append]
    exact head?_hexDigits n hzero

/-- **The padded digits of a number are the ones that are written**, for every width but none. -/
theorem isPadded_iff (hwidth : 0 < width) : IsPadded width n cs ↔ cs = hexPadded width n := by
  constructor
  · intro h
    obtain ⟨hdigits, hvalue⟩ := spells_iff.mp h.spells
    have hpos : cs ≠ [] := List.length_pos_iff.mp (Nat.lt_of_lt_of_le hwidth h.wide)
    obtain ⟨c, rest, rfl⟩ := List.exists_cons_of_ne_nil hpos
    have hwritten : hexPadded (c :: rest).length n = c :: rest := by
      rw [← hvalue, hexPadded_hexValue_eq_iff hdigits]
      exact fun x hx => (mem_lowerDigits (h.lower x hx)).2
    have hlength := congrArg List.length hwritten
    rw [length_hexPadded] at hlength
    rw [← hwritten, hexPadded_eq_iff]
    refine ⟨rfl, ?_⟩
    rcases Nat.lt_or_ge (hexDigits n).length (c :: rest).length with hzeros | hzeros
    · -- there is a zero before the number, so the digits do not go beyond the width
      have hhead : (c :: rest).head? = some '0' := by
        rw [← hwritten, hexPadded, List.head?_append, List.head?_replicate, if_neg (by omega),
          Option.some_or]
      have hwide := h.wide
      have hnot : ¬ width < (c :: rest).length := fun hlt => h.noMore hlt hhead
      omega
    · have hwide := h.wide
      omega
  · rintro rfl
    exact isPadded_hexPadded hwidth n

end UplinkFlow.Text
