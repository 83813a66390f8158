import UplinkFlow.NodeId.Pattern
import UplinkFlow.Proofs.Text.Hexadecimal

/-!
# When shifted identifiers are the same

* `shifted` — an identifier moved by an offset; it stays where it is if the sum of its suffix and
  the offset leaves 64 bits.
* `Meets`, `shifted_eq_iff_of_le` — without such sums, the only way in which two moved identifiers
  can be the same text: one stem, one sum, one width.
* `Clash` — the four ways in which an identifier moved by one offset can be the same text as another
  one moved by another offset, in terms of stems, sums and widths.
* `shifted_eq_iff` — there are no other ways.
* `shifted_eq_iff_of_ne` — moved by the same number, different identifiers can only meet.
-/

set_option autoImplicit false

namespace UplinkFlow.NodeIdPattern

open Text (hexValue hexDigits hexPadded maxWord)

variable {p : NodeIdPattern} {n m : Nat} {a b : String}

/-! ## Stems and suffixes -/

/-- A text is divided at its first dot in one way only. -/
theorem dot_append_inj : ∀ {stem stem' suffix suffix' : List Char}, '.' ∉ stem → '.' ∉ stem' →
    (stem ++ '.' :: suffix = stem' ++ '.' :: suffix' ↔ stem = stem' ∧ suffix = suffix')
  | [], [], _, _, _, _ => by simp
  | [], c :: _, _, _, _, h' => by
    have hc : c ≠ '.' := fun hc => h' (by simp [hc])
    simp [hc.symm]
  | c :: _, [], _, _, h, _ => by
    have hc : c ≠ '.' := fun hc => h (by simp [hc])
    simp [hc]
  | c :: stem, c' :: stem', suffix, suffix', h, h' => by
    have ih := @dot_append_inj stem stem' suffix suffix'
      (fun hs => h (List.mem_cons_of_mem _ hs)) (fun hs => h' (List.mem_cons_of_mem _ hs))
    simp [ih, and_assoc]

theorem split?_spec {stem suffix : List Char} (h : p.split? a = some (stem, suffix)) :
    a.toList = stem ++ '.' :: suffix ∧ '.' ∉ stem ∧
      p.admits (byteLength stem) (byteLength a.toList) = true := by
  unfold split? at h
  split at h
  · rename_i rest hrest
    simp only at h
    split at h
    · rename_i hadmits
      obtain ⟨rfl, rfl⟩ : a.toList.takeWhile (· != '.') = stem ∧ rest = suffix := by simpa using h
      refine ⟨?_, fun hdot => ?_, ?_⟩
      · rw [← hrest, List.takeWhile_append_dropWhile]
      · simpa using List.all_eq_true.mp List.all_takeWhile _ hdot
      · simp only [Bool.and_eq_true] at hadmits
        exact hadmits.1.1
    · cases h
  · cases h

theorem byteLength_append (cs ds : List Char) :
    byteLength (cs ++ ds) = byteLength cs + byteLength ds := by
  induction cs with
  | nil => simp [byteLength]
  | cons c cs ih =>
    simp only [List.cons_append, byteLength, ih]
    omega

theorem length_le_byteLength (cs : List Char) : cs.length ≤ byteLength cs := by
  induction cs with
  | nil => simp [byteLength]
  | cons c cs ih =>
    have hpos := c.utf8Size_pos
    simp only [List.length_cons, byteLength]
    omega

theorem hexValue_suffix_lt {stem u : List Char} (h : p.split? a = some (stem, u)) :
    hexValue u < 0x10000000 := by
  obtain ⟨htext, -, hadmits⟩ := split?_spec h
  have hbytes : byteLength a.toList = byteLength stem + (1 + byteLength u) := by
    rw [htext, byteLength_append, byteLength]
    rfl
  have hstem : 7 ≤ byteLength stem ∧ byteLength a.toList ≤ 15 := by
    cases p <;> simp only [admits, Bool.and_eq_true, Bool.or_eq_true, beq_iff_eq] at hadmits <;>
      omega
  have hlength := length_le_byteLength u
  have hbits : 4 * u.length ≤ 28 := by omega
  calc hexValue u < 1 <<< (4 * u.length) := Text.hexValue_lt u
    _ ≤ 1 <<< 28 := by
      rw [Nat.one_shiftLeft, Nat.one_shiftLeft]
      exact Nat.pow_le_pow_right (by decide) hbits

theorem isMatch_iff : p.isMatch a = true ↔ ∃ stem suffix, p.split? a = some (stem, suffix) := by
  simp [isMatch, Option.isSome_iff_exists]

/-! ## Shifting -/

/-- An identifier moved by an offset, where that is possible. -/
def shifted (p : NodeIdPattern) (n : Nat) (a : String) : String := (p.shift? n a).getD a

theorem shifted_of_le {stem u : List Char} (h : p.split? a = some (stem, u))
    (hle : hexValue u + n ≤ maxWord) :
    shifted p n a = String.ofList (stem ++ '.' :: hexPadded u.length (hexValue u + n)) := by
  simp [shifted, shift?, h, hle]

theorem shifted_of_lt {stem u : List Char} (h : p.split? a = some (stem, u))
    (hlt : maxWord < hexValue u + n) : shifted p n a = a := by
  have : ¬ hexValue u + n ≤ maxWord := by omega
  simp [shifted, shift?, h, this]

/-- The number of digits in which a suffix is written after an offset has been added. -/
def shiftedWidth (u : List Char) (n : Nat) : Nat :=
  max u.length (hexDigits (hexValue u + n)).length

/-- `a` moved by `n` and `b` moved by `m` have the same stem and reach the same sum in the same
width. -/
def Meets (p : NodeIdPattern) (n m : Nat) (a b : String) : Prop :=
  ∃ stem u v, p.split? a = some (stem, u) ∧ p.split? b = some (stem, v) ∧
    hexValue u + n = hexValue v + m ∧ shiftedWidth u n = shiftedWidth v m

/-- As long as no sum leaves 64 bits, two shifted identifiers are the same text exactly if they
meet. -/
theorem shifted_eq_iff_of_le {stem stem' u v : List Char} (hu : p.split? a = some (stem, u))
    (hv : p.split? b = some (stem', v)) (hn : hexValue u + n ≤ maxWord)
    (hm : hexValue v + m ≤ maxWord) : shifted p n a = shifted p m b ↔ Meets p n m a b := by
  obtain ⟨-, hdot, -⟩ := split?_spec hu
  obtain ⟨-, hdot', -⟩ := split?_spec hv
  rw [shifted_of_le hu hn, shifted_of_le hv hm, String.ofList_inj, dot_append_inj hdot hdot',
    Text.hexPadded_eq_iff]
  constructor
  · rintro ⟨rfl, hsum, hwidth⟩
    exact ⟨stem, u, v, hu, hv, hsum, hwidth⟩
  · rintro ⟨common, u', v', hu', hv', hsum, hwidth⟩
    obtain ⟨rfl, rfl⟩ : stem = common ∧ u = u' := by simpa [hu] using hu'
    obtain ⟨rfl, rfl⟩ : stem' = stem ∧ v = v' := by simpa [hv] using hv'
    exact ⟨rfl, hsum, hwidth⟩

/-- `a` moved by `n` takes the place of `b`, which the offset `m` does not move. -/
def MovesOnto (p : NodeIdPattern) (n m : Nat) (a b : String) : Prop :=
  ∃ stem u v, p.split? a = some (stem, u) ∧ p.split? b = some (stem, v) ∧
    hexValue u + n ≤ maxWord ∧ maxWord < hexValue v + m ∧ v = hexPadded u.length (hexValue u + n)

/-- How `a` moved by `n` and `b` moved by `m` can be the same identifier.

* `meet` — both move, and with the same stem they reach the same sum in the same width;
* `onto`, `under` — one of them moves to where the other one stays;
* `stay` — they are the same identifier, and neither offset moves it. -/
inductive Clash (p : NodeIdPattern) (n m : Nat) (a b : String) : Prop where
  | meet (stem u v : List Char) (left : p.split? a = some (stem, u))
      (right : p.split? b = some (stem, v)) (fits : hexValue u + n ≤ maxWord)
      (sum : hexValue u + n = hexValue v + m) (width : shiftedWidth u n = shiftedWidth v m)
  | onto (h : MovesOnto p n m a b)
  | under (h : MovesOnto p m n b a)
  | stay (same : a = b) (stem u : List Char) (parts : p.split? a = some (stem, u))
      (left : maxWord < hexValue u + n) (right : maxWord < hexValue u + m)

/-- **Two shifted identifiers are the same text exactly if they clash.** -/
theorem shifted_eq_iff (ha : p.isMatch a = true) (hb : p.isMatch b = true) :
    shifted p n a = shifted p m b ↔ Clash p n m a b := by
  obtain ⟨stem, u, hu⟩ := isMatch_iff.mp ha
  obtain ⟨stem', v, hv⟩ := isMatch_iff.mp hb
  obtain ⟨htext, hdot, -⟩ := split?_spec hu
  obtain ⟨htext', hdot', -⟩ := split?_spec hv
  constructor
  · intro h
    rcases Nat.lt_or_ge maxWord (hexValue u + n) with hn | hn <;>
      rcases Nat.lt_or_ge maxWord (hexValue v + m) with hm | hm
    · rw [shifted_of_lt hu hn, shifted_of_lt hv hm] at h
      subst h
      obtain ⟨rfl, rfl⟩ : stem = stem' ∧ u = v := by simpa [hu] using hv
      exact .stay rfl stem u hu hn hm
    · rw [shifted_of_lt hu hn, shifted_of_le hv hm, ← String.toList_inj, htext,
        String.toList_ofList, dot_append_inj hdot hdot'] at h
      obtain ⟨rfl, h⟩ := h
      exact .under ⟨stem, v, u, hv, hu, hm, hn, h⟩
    · rw [shifted_of_le hu hn, shifted_of_lt hv hm, ← String.toList_inj, htext',
        String.toList_ofList, dot_append_inj hdot hdot'] at h
      obtain ⟨rfl, h⟩ := h
      exact .onto ⟨stem, u, v, hu, hv, hn, hm, h.symm⟩
    · obtain ⟨stem, u', v, hu', hv, hsum, hwidth⟩ := (shifted_eq_iff_of_le hu hv hn hm).mp h
      obtain ⟨rfl, rfl⟩ : _ = stem ∧ u = u' := by simpa [hu] using hu'
      exact .meet _ u v hu hv hn hsum hwidth
  · intro h
    cases h with
    | meet stem u v left right fits sum width =>
      exact (shifted_eq_iff_of_le left right fits (sum ▸ fits)).mpr
        ⟨stem, u, v, left, right, sum, width⟩
    | onto h =>
      obtain ⟨stem, u, v, hu, hv, hn, hm, htext⟩ := h
      rw [shifted_of_le hu hn, shifted_of_lt hv hm, ← String.toList_inj, (split?_spec hv).1,
        String.toList_ofList, htext]
    | under h =>
      obtain ⟨stem, u, v, hu, hv, hn, hm, htext⟩ := h
      rw [shifted_of_le hu hn, shifted_of_lt hv hm, ← String.toList_inj, (split?_spec hv).1,
        String.toList_ofList, htext]
    | stay same stem u parts left right =>
      subst same
      rw [shifted_of_lt parts left, shifted_of_lt parts right]

/-- Moved by the same number, different identifiers become the same text only if both move. -/
theorem shifted_eq_iff_of_ne (ha : p.isMatch a = true) (hb : p.isMatch b = true) (hne : a ≠ b) :
    shifted p n a = shifted p n b ↔ (p.shift? n a).isSome = true ∧ Meets p n n a b := by
  have hnot : ∀ {a b : String}, ¬ MovesOnto p n n a b := by
    -- what stays has a suffix of seven digits at most, so the number is too small to keep it there
    rintro a b ⟨stem, u, v, -, hv, -, hstays, rfl⟩
    have hlt := hexValue_suffix_lt hv
    rw [Text.hexValue_hexPadded] at hstays hlt
    have hmax : maxWord = 0xFFFFFFFFFFFFFFFF := rfl
    omega
  rw [shifted_eq_iff ha hb]
  constructor
  · intro h
    cases h with
    | meet stem u v left right fits sum width =>
      exact ⟨by simp [shift?, left, fits], stem, u, v, left, right, sum, width⟩
    | onto h => exact absurd h hnot
    | under h => exact absurd h hnot
    | stay same => exact absurd same hne
  · rintro ⟨hmoves, stem, u, v, hu, hv, hsum, hwidth⟩
    have hfits : hexValue u + n ≤ maxWord := by
      rcases Nat.lt_or_ge maxWord (hexValue u + n) with hover | hfits
      · have hnot : ¬ hexValue u + n ≤ maxWord := by omega
        simp [shift?, hu, hnot] at hmoves
      · exact hfits
    exact .meet stem u v hu hv hfits hsum hwidth

end UplinkFlow.NodeIdPattern
