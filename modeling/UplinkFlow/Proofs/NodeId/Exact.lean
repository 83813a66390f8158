import UplinkFlow.Proofs.NodeId.Shape
import UplinkFlow.Proofs.Text.Padding

/-!
# What an offset makes of a text

* `IsIdentifier` — the identifiers of a pattern by their bytes, with the number that the suffix
  spells; `isIdentifier_iff` — these are the ones that the pattern divides.
* `ShiftsTo` — an identifier and what an offset makes of it; `shift?_eq_some_iff` — nothing else
  becomes of it, and nothing becomes of any other text.
* `ShiftsTo.isIdentifier_iff`, `ShiftsTo.isMatch_iff` — **a shifted identifier follows the pattern
  again exactly if its number stays below a bound**, which the stem sets.
* `shift?_exact` — **the exact behaviour of a shift.**
-/

set_option autoImplicit false

namespace UplinkFlow.NodeIdPattern

open Text (hexValue hexPadded hexDigits maxWord isHexDigit IsPadded Spells)

variable {p : NodeIdPattern} {n value : Nat} {s t : String} {stem suffix digits : List Char}

/-! ## Identifiers -/

/-- The numbers of bytes that a stem and the whole identifier can have. -/
def lengths : NodeIdPattern → List (Nat × Nat)
  | .legacy => [(7, 14), (7, 15), (8, 14), (8, 15)]
  | .fixed => [(8, 15)]

/-- A text is an identifier with this stem and this suffix, which spells this number.

* `text`, `dotless` — they stand on the two sides of the first dot;
* `bytes` — the stem and the whole have lengths of the pattern in UTF-8;
* `spells` — the suffix consists of hexadecimal digits of either case. -/
structure IsIdentifier (p : NodeIdPattern) (s : String) (stem suffix : List Char) (value : Nat) :
    Prop where
  text : s.toList = stem ++ '.' :: suffix
  dotless : '.' ∉ stem
  bytes : ((String.ofList stem).utf8ByteSize, s.utf8ByteSize) ∈ p.lengths
  spells : Spells suffix value

theorem utf8ByteSize_ofList (cs : List Char) : (String.ofList cs).utf8ByteSize = byteLength cs := by
  induction cs with
  | nil => rfl
  | cons c cs ih =>
    rw [String.ofList_cons, String.utf8ByteSize_append, String.utf8ByteSize_singleton, ih,
      byteLength]

theorem utf8ByteSize_eq (s : String) : s.utf8ByteSize = byteLength s.toList := by
  rw [← utf8ByteSize_ofList, String.ofList_toList]

theorem byteLength_eq_length (h : ∀ c ∈ suffix, isHexDigit c = true) :
    byteLength suffix = suffix.length := by
  induction suffix with
  | nil => rfl
  | cons c cs ih =>
    obtain ⟨hc, hcs⟩ := List.forall_mem_cons.mp h
    obtain ⟨d, hd⟩ := Option.isSome_iff_exists.mp hc
    have hascii : c.toNat ≤ 127 := Nat.le_of_lt_succ (Text.toNat_lt_of_hexDigit? hd)
    have hone : c.utf8Size = 1 := Char.utf8Size_eq_one_iff.mpr hascii
    rw [byteLength, ih hcs, hone, List.length_cons, Nat.add_comm]

theorem byteLength_text (htext : s.toList = stem ++ '.' :: suffix)
    (hdigits : ∀ c ∈ suffix, isHexDigit c = true) :
    byteLength s.toList = byteLength stem + 1 + suffix.length := by
  have hdot : byteLength ('.' :: suffix) = 1 + suffix.length := by
    rw [byteLength, byteLength_eq_length hdigits]
    rfl
  rw [htext, byteLength_append, hdot, Nat.add_assoc]

theorem mem_lengths_iff {bytes total : Nat} :
    (bytes, total) ∈ p.lengths ↔ p.admits bytes total = true := by
  cases p with
  | legacy =>
    simp only [lengths, admits, List.mem_cons, Prod.mk.injEq, List.not_mem_nil, or_false,
      Bool.and_eq_true, Bool.or_eq_true, beq_iff_eq]
    omega
  | fixed => simp [lengths, admits]

/-- **The identifiers of a pattern are the texts that it divides**, and it divides them so. -/
theorem isIdentifier_iff :
    p.IsIdentifier s stem suffix value ↔ p.HasParts s stem suffix ∧ hexValue suffix = value := by
  constructor
  · intro h
    obtain ⟨hdigits, hvalue⟩ := Text.spells_iff.mp h.spells
    have hbytes : p.admits (byteLength stem) (byteLength s.toList) = true := by
      rw [← utf8ByteSize_ofList, ← utf8ByteSize_eq]
      exact mem_lengths_iff.mp h.bytes
    have hne : suffix ≠ [] := by
      rintro rfl
      rw [byteLength_text h.text hdigits, List.length_nil] at hbytes
      cases p <;> simp only [admits, Bool.and_eq_true, Bool.or_eq_true, beq_iff_eq] at hbytes <;>
        omega
    exact ⟨⟨h.text, h.dotless, hbytes, hne, hdigits⟩, hvalue⟩
  · rintro ⟨h, hvalue⟩
    refine ⟨h.text, h.dotless, ?_, Text.spells_iff.mpr ⟨h.digits.2, hvalue⟩⟩
    rw [utf8ByteSize_ofList, utf8ByteSize_eq]
    exact mem_lengths_iff.mpr h.bytes

theorem split?_eq_some_iff_exists :
    p.split? s = some (stem, suffix) ↔ ∃ value, p.IsIdentifier s stem suffix value := by
  simp only [isIdentifier_iff, split?_eq_some_iff, exists_and_left, exists_eq', and_true]

/-! ## Shifts -/

/-- An identifier with these parts, and what an offset makes of it.

* `fits` — the sum of its number and the offset fits 64 bits;
* `text`, `padded` — its stem and the dot stay, and behind them is the sum in lower case, padded
  with zeros to the width of the suffix. -/
structure ShiftsTo (p : NodeIdPattern) (n : Nat) (s : String) (stem suffix digits : List Char)
    (value : Nat) (t : String) : Prop where
  identifier : p.IsIdentifier s stem suffix value
  fits : value + n < 2 ^ 64
  text : t.toList = stem ++ '.' :: digits
  padded : IsPadded suffix.length (value + n) digits

theorem le_maxWord_iff {m : Nat} : m ≤ maxWord ↔ m < 2 ^ 64 := by
  rw [maxWord]
  omega

namespace IsIdentifier

theorem width_pos (h : p.IsIdentifier s stem suffix value) : 0 < suffix.length :=
  List.length_pos_iff.mpr (isIdentifier_iff.mp h).1.digits.1

theorem shift?_eq (h : p.IsIdentifier s stem suffix value) (hfits : value + n < 2 ^ 64) :
    p.shift? n s = some (String.ofList (stem ++ '.' :: hexPadded suffix.length (value + n))) := by
  obtain ⟨hparts, rfl⟩ := isIdentifier_iff.mp h
  rw [shift?, split?_eq_some_iff.mpr hparts, Option.bind_some]
  exact if_pos (le_maxWord_iff.mpr hfits)

theorem shiftsTo (h : p.IsIdentifier s stem suffix value) (hfits : value + n < 2 ^ 64) :
    p.ShiftsTo n s stem suffix (hexPadded suffix.length (value + n)) value
      (String.ofList (stem ++ '.' :: hexPadded suffix.length (value + n))) where
  identifier := h
  fits := hfits
  text := String.toList_ofList
  padded := Text.isPadded_hexPadded h.width_pos _

end IsIdentifier

/-- **What an offset makes of a text**: an identifier is shifted as long as the sum fits, and there
is nothing else that a text could become. -/
theorem shift?_eq_some_iff : p.shift? n s = some t ↔
    ∃ stem suffix digits value, p.ShiftsTo n s stem suffix digits value t := by
  constructor
  · intro h
    obtain ⟨⟨stem, suffix⟩, hsplit, hshift⟩ := Option.bind_eq_some_iff.mp h
    obtain ⟨value, hid⟩ := split?_eq_some_iff_exists.mp hsplit
    obtain ⟨-, rfl⟩ := isIdentifier_iff.mp hid
    rw [Option.ite_none_right_eq_some] at hshift
    obtain ⟨hfits, heq⟩ := hshift
    obtain rfl := Option.some.inj heq
    exact ⟨stem, suffix, _, _, hid.shiftsTo (le_maxWord_iff.mp hfits)⟩
  · rintro ⟨stem, suffix, digits, value, h⟩
    rw [h.identifier.shift?_eq h.fits, Option.some.injEq, ← String.toList_inj, h.text,
      String.toList_ofList, (Text.isPadded_iff h.identifier.width_pos).mp h.padded]

/-- A pattern admits a longer suffix as long as the whole has fifteen bytes at most. -/
theorem admits_iff_of_le {bytes width more : Nat} (h : p.admits bytes (bytes + 1 + width) = true)
    (hle : width ≤ more) : p.admits bytes (bytes + 1 + more) = true ↔ more ≤ 14 - bytes := by
  cases p <;> simp only [admits, Bool.and_eq_true, Bool.or_eq_true, beq_iff_eq] at h ⊢ <;> omega

namespace ShiftsTo

/-- A shifted identifier has its sum as its number, if its suffix is not too long by then. -/
theorem isIdentifier_iff (h : p.ShiftsTo n s stem suffix digits value t) :
    p.IsIdentifier t stem digits (value + n) ↔
      value + n < 16 ^ (14 - (String.ofList stem).utf8ByteSize) := by
  obtain ⟨hparts, -⟩ := NodeIdPattern.isIdentifier_iff.mp h.identifier
  obtain ⟨hdigits, -⟩ := Text.spells_iff.mp h.padded.spells
  have hlength : digits.length = max suffix.length (hexDigits (value + n)).length := by
    rw [(Text.isPadded_iff h.identifier.width_pos).mp h.padded, Text.length_hexPadded]
  have hbefore := hparts.bytes
  rw [byteLength_text hparts.text hparts.digits.2] at hbefore
  have hroom := (admits_iff_of_le hbefore (Nat.le_refl _)).mp hbefore
  have hbytes : ((String.ofList stem).utf8ByteSize, t.utf8ByteSize) ∈ p.lengths ↔
      digits.length ≤ 14 - byteLength stem := by
    rw [mem_lengths_iff, utf8ByteSize_ofList, utf8ByteSize_eq, byteLength_text h.text hdigits]
    exact admits_iff_of_le hbefore h.padded.wide
  have hbound : digits.length ≤ 14 - byteLength stem ↔
      value + n < 16 ^ (14 - (String.ofList stem).utf8ByteSize) := by
    have hpos := Nat.lt_of_lt_of_le h.identifier.width_pos hroom
    rw [utf8ByteSize_ofList, ← Text.length_hexDigits_le_iff hpos, hlength]
    omega
  rw [← hbound, ← hbytes]
  constructor
  · intro hid
    exact hid.bytes
  · intro hbytes
    exact ⟨h.text, h.identifier.dotless, hbytes, h.padded.spells⟩

/-- **A shifted identifier is one again exactly if its number stays below the bound.** -/
theorem isMatch_iff (h : p.ShiftsTo n s stem suffix digits value t) :
    p.isMatch t = true ↔ value + n < 16 ^ (14 - (String.ofList stem).utf8ByteSize) := by
  rw [← h.isIdentifier_iff, NodeIdPattern.isMatch_iff]
  constructor
  · rintro ⟨stem', suffix', hsplit⟩
    obtain ⟨value', hid⟩ := split?_eq_some_iff_exists.mp hsplit
    have hsame := h.text.symm.trans hid.text
    rw [dot_append_inj h.identifier.dotless hid.dotless] at hsame
    obtain ⟨rfl, rfl⟩ := hsame
    exact ⟨h.text, hid.dotless, hid.bytes, h.padded.spells⟩
  · intro hid
    exact ⟨stem, digits, split?_eq_some_iff_exists.mpr ⟨_, hid⟩⟩

end ShiftsTo

/-! ## Exactness -/

/-- Everything that a pattern makes of a text with an offset.

* `divides` — it divides the identifiers and nothing else;
* `defined`, `becomes` — the identifiers whose sum fits are shifted, and to what;
* `again` — when the result is an identifier of the pattern again;
* `legacy` — what the fixed pattern divides and shifts, the other one does in the same way. -/
structure ShiftsExactly (p : NodeIdPattern) (n : Nat) (s : String) : Prop where
  divides : ∀ stem suffix,
    p.split? s = some (stem, suffix) ↔ ∃ value, p.IsIdentifier s stem suffix value
  defined : (∃ t, p.shift? n s = some t) ↔
    ∃ stem suffix value, p.IsIdentifier s stem suffix value ∧ value + n < 2 ^ 64
  becomes : ∀ t, p.shift? n s = some t ↔
    ∃ stem suffix digits value, p.ShiftsTo n s stem suffix digits value t
  again : ∀ stem suffix digits value t, p.ShiftsTo n s stem suffix digits value t →
    (p.isMatch t = true ↔ value + n < 16 ^ (14 - (String.ofList stem).utf8ByteSize))
  legacy : fixed.isMatch s = true →
    legacy.split? s = fixed.split? s ∧ legacy.shift? n s = fixed.shift? n s

/-- An identifier of the fixed pattern is one of the other pattern. -/
theorem IsIdentifier.legacy (h : fixed.IsIdentifier s stem suffix value) :
    legacy.IsIdentifier s stem suffix value where
  text := h.text
  dotless := h.dotless
  bytes := by
    rw [List.mem_singleton.mp h.bytes]
    decide
  spells := h.spells

/-- **The exact behaviour of a shift**, for every pattern, offset and text. -/
theorem shift?_exact (p : NodeIdPattern) (n : Nat) (s : String) : p.ShiftsExactly n s where
  divides _ _ := split?_eq_some_iff_exists
  defined := by
    constructor
    · rintro ⟨t, ht⟩
      obtain ⟨stem, suffix, digits, value, h⟩ := shift?_eq_some_iff.mp ht
      exact ⟨stem, suffix, value, h.identifier, h.fits⟩
    · rintro ⟨stem, suffix, value, h, hfits⟩
      exact ⟨_, h.shift?_eq hfits⟩
  becomes _ := shift?_eq_some_iff
  again _ _ _ _ _ := ShiftsTo.isMatch_iff
  legacy hmatch := by
    obtain ⟨stem, suffix, hsplit⟩ := NodeIdPattern.isMatch_iff.mp hmatch
    obtain ⟨value, h⟩ := split?_eq_some_iff_exists.mp hsplit
    have hlegacy := split?_eq_some_iff_exists.mpr ⟨value, h.legacy⟩
    rw [shift?, shift?, hsplit, hlegacy]
    exact ⟨rfl, rfl⟩

/-- A carry into a new digit makes an identifier longer; from fifteen bytes on it is none then. -/
example : legacy.shift? 1 "a4c6e2f8.fffff" = some "a4c6e2f8.100000" ∧
    legacy.shift? 1 "a4c6e2f8.ffffff" = some "a4c6e2f8.1000000" ∧
    legacy.isMatch "a4c6e2f8.1000000" = false := by
  decide +kernel

end UplinkFlow.NodeIdPattern
