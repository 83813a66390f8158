import Mathlib.Data.List.TakeWhile
import UplinkFlow.Proofs.Text.Digits

/-!
# Texts of whole numbers

* `IsWhole` — digits behind an optional plus sign, and the number that they denote.
* `readNat_eq_ok_iff` — **a number is read from exactly these texts, unless it exceeds the bound.**
* `Holds`, `readWord_trim_eq_ok_iff` — the same of a text with blanks around the number.
-/

set_option autoImplicit false

namespace UplinkFlow.Text

open Binary64 (digitsValue isDigit)

variable {c : Char} {cs before after : List Char} {bound acc n m : Nat} {s : String}

/-- The text of a whole number: digits behind an optional plus sign. -/
inductive IsWhole : List Char → Nat → Prop where
  | plain {ds : List Char} (hne : ds ≠ []) (hall : ∀ c ∈ ds, isDigit c = true) :
    IsWhole ds (digitsValue ds)
  | plus {ds : List Char} (hne : ds ≠ []) (hall : ∀ c ∈ ds, isDigit c = true) :
    IsWhole ('+' :: ds) (digitsValue ds)

/-- A text that is a whole number between blanks. -/
def Holds (s : String) (n : Nat) : Prop :=
  ∃ before number after, s.toList = before ++ number ++ after ∧
    (∀ c ∈ before ++ after, isBlank c = true) ∧ IsWhole number n

/-! ## Digits -/

theorem digitsValue_cons {d : Nat} (h : digit? c = some d) (cs : List Char) :
    digitsValue (c :: cs) = d * 10 ^ cs.length + digitsValue cs := by
  rw [← List.singleton_append, digitsValue_append]
  simp [digitsValue, h]

/-- Digits are read as long as the number stays within the bound. -/
theorem foldlM_pushDigit_eq_ok_iff (hacc : acc ≤ bound) :
    cs.foldlM (pushDigit bound) acc = .ok n ↔ (∀ c ∈ cs, isDigit c = true) ∧
      acc * 10 ^ cs.length + digitsValue cs = n ∧ n ≤ bound := by
  induction cs generalizing acc with
  | nil =>
    simp only [List.foldlM_nil, pure, Except.pure, Except.ok.injEq, List.not_mem_nil,
      false_implies, implies_true, true_and, List.length_nil, pow_zero, mul_one, digitsValue,
      List.foldl_nil, Nat.add_zero]
    exact ⟨fun h => ⟨h, h ▸ hacc⟩, And.left⟩
  | cons c cs ih =>
    rw [List.foldlM_cons, List.forall_mem_cons]
    cases hd : digit? c with
    | none => simp [pushDigit, hd, bind, Except.bind, isDigit]
    | some d =>
      have hvalue : acc * 10 ^ (c :: cs).length + digitsValue (c :: cs) =
          (acc * 10 + d) * 10 ^ cs.length + digitsValue cs := by
        rw [digitsValue_cons hd, List.length_cons]
        ring
      have hdigit : isDigit c = true := by simp [isDigit, hd]
      rw [hvalue]
      by_cases hle : acc * 10 + d ≤ bound
      · simp only [pushDigit, hd, hle, if_true, bind, Except.bind, ih hle, hdigit, true_and]
      · have hgrows : acc * 10 + d ≤ (acc * 10 + d) * 10 ^ cs.length :=
          Nat.le_mul_of_pos_right _ (Nat.pow_pos (by decide))
        simp only [pushDigit, hd, hle, if_false, bind, Except.bind, reduceCtorEq, false_iff]
        rintro ⟨-, rfl, hbound⟩
        omega

theorem readDigits_eq_ok_iff : readDigits bound cs = .ok n ↔
    cs ≠ [] ∧ (∀ c ∈ cs, isDigit c = true) ∧ digitsValue cs = n ∧ n ≤ bound := by
  cases cs with
  | nil => simp [readDigits]
  | cons c cs =>
    rw [readDigits, foldlM_pushDigit_eq_ok_iff (Nat.zero_le bound), Nat.zero_mul, Nat.zero_add]
    · simp
    · exact List.cons_ne_nil c cs

/-! ## Numbers -/

/-- **A number is read from exactly its texts**, unless it exceeds the bound. -/
theorem readNat_eq_ok_iff : readNat bound cs = .ok n ↔ IsWhole cs n ∧ n ≤ bound := by
  constructor
  · intro h
    unfold readNat at h
    split at h
    · cases h
    · obtain ⟨hne, hall, rfl, hbound⟩ := readDigits_eq_ok_iff.mp h
      exact ⟨.plus hne hall, hbound⟩
    · obtain ⟨hne, hall, rfl, hbound⟩ := readDigits_eq_ok_iff.mp h
      exact ⟨.plain hne hall, hbound⟩
  · rintro ⟨hwhole, hbound⟩
    cases hwhole with
    | plain hne hall =>
      have hread := readDigits_eq_ok_iff.mpr ⟨hne, hall, rfl, hbound⟩
      rw [readNat.eq_def]
      split
      · exact absurd rfl hne
      · exact absurd (hall '+' List.mem_cons_self) (by decide)
      · exact hread
    | plus hne hall => exact readDigits_eq_ok_iff.mpr ⟨hne, hall, rfl, hbound⟩

theorem IsWhole.inj (h : IsWhole cs n) (h' : IsWhole cs m) : n = m := by
  have hread := readNat_eq_ok_iff.mpr ⟨h, Nat.le_max_left n m⟩
  have hread' := readNat_eq_ok_iff.mpr ⟨h', Nat.le_max_right n m⟩
  exact Except.ok.inj (hread.symm.trans hread')

/-! ## Blanks -/

theorem isBlank_of_isDigit (h : isDigit c = true) : isBlank c = false := by
  obtain ⟨d, hd⟩ := Option.isSome_iff_exists.mp h
  unfold digit? at hd
  split at hd
  · rename_i hrange
    have hlow : 48 ≤ c.toNat := hrange.1
    have hhigh : c.toNat ≤ 57 := hrange.2
    simp [isBlank]
    omega
  · cases hd

theorem IsWhole.isBlank_eq_false (h : IsWhole cs n) : ∀ c ∈ cs, isBlank c = false := by
  cases h with
  | plain _ hall => exact fun c hc => isBlank_of_isDigit (hall c hc)
  | plus _ hall => exact List.forall_mem_cons.mpr ⟨rfl, fun c hc => isBlank_of_isDigit (hall c hc)⟩

theorem exists_trimChars (cs : List Char) : ∃ before after, cs = before ++ trimChars cs ++ after ∧
    ∀ c ∈ before ++ after, isBlank c = true := by
  refine ⟨cs.takeWhile isBlank, ((cs.dropWhile isBlank).reverse.takeWhile isBlank).reverse, ?_, ?_⟩
  · rw [trimChars, List.append_assoc, ← List.reverse_append, List.takeWhile_append_dropWhile,
      List.reverse_reverse, List.takeWhile_append_dropWhile]
  · intro c hc
    rcases List.mem_append.mp hc with hc | hc
    · exact List.mem_takeWhile_imp hc
    · exact List.mem_takeWhile_imp (List.mem_reverse.mp hc)

theorem trimChars_between (hcs : ∀ c ∈ cs, isBlank c = false)
    (hblank : ∀ c ∈ before ++ after, isBlank c = true) :
    trimChars (before ++ cs ++ after) = cs := by
  obtain ⟨hbefore, hafter⟩ := List.forall_mem_append.mp hblank
  have hfront : (before ++ (cs ++ after)).dropWhile isBlank = (cs ++ after).dropWhile isBlank :=
    List.dropWhile_append_of_pos hbefore
  rw [trimChars, List.append_assoc, hfront]
  cases cs with
  | nil => simp [List.dropWhile_eq_nil_iff.mpr hafter]
  | cons c cs =>
    have hc : isBlank c = false := hcs c List.mem_cons_self
    rw [List.cons_append, List.dropWhile_cons_of_neg (by simp [hc]), ← List.cons_append,
      List.reverse_append, List.dropWhile_append_of_pos (by simpa using hafter),
      dropWhile_isBlank_of_all fun x hx => hcs x (List.mem_reverse.mp hx), List.reverse_reverse]

/-- **A number of 64 bits is read from exactly the texts that hold it.** -/
theorem readWord_trim_eq_ok_iff : readWord (trim s) = .ok n ↔ Holds s n ∧ n ≤ maxWord := by
  rw [readWord, trim, String.toList_ofList, readNat_eq_ok_iff]
  refine and_congr_left fun _ => ⟨fun h => ?_, ?_⟩
  · obtain ⟨before, after, hs, hblank⟩ := exists_trimChars s.toList
    exact ⟨before, _, after, hs, hblank, h⟩
  · rintro ⟨before, number, after, hs, hblank, hnumber⟩
    rwa [hs, trimChars_between hnumber.isBlank_eq_false hblank]

theorem Holds.inj (h : Holds s n) (h' : Holds s m) : n = m := by
  obtain ⟨before, number, after, hs, hblank, hnumber⟩ := h
  obtain ⟨before', number', after', hs', hblank', hnumber'⟩ := h'
  have htrim := trimChars_between hnumber.isBlank_eq_false hblank
  rw [← hs, hs', trimChars_between hnumber'.isBlank_eq_false hblank'] at htrim
  exact (htrim ▸ hnumber').inj hnumber |>.symm

end UplinkFlow.Text
