import UplinkFlow.Proofs.Json.Strings
import UplinkFlow.Proofs.NodeId.Exact

/-!
# Shifting twice

* `HasRoom` — a string that two offsets, one after the other, take nowhere beyond the lengths of its
  pattern and beyond 64 bits.
* `HasRoom.shift?_shifted` — for such a string the second offset goes on where the first one has
  ended.
* `Json.shiftNodeIds_add` — **two shifts of a document are one shift by their sum**, and each of them
  counts the identifiers of the document.
-/

set_option autoImplicit false

namespace UplinkFlow

namespace NodeIdPattern

variable {p : NodeIdPattern} {a b n : Nat} {s : String}

/-- If a string is an identifier, there is room for the first offset in its pattern, and for both of
them in 64 bits. -/
def HasRoom (p : NodeIdPattern) (a b : Nat) (s : String) : Prop :=
  ∀ stem suffix value, p.IsIdentifier s stem suffix value →
    value + a < 16 ^ (14 - (String.ofList stem).utf8ByteSize) ∧ value + a + b < 2 ^ 64

theorem hasRoom_iff : p.HasRoom a b s ↔ ∀ parts ∈ p.split? s,
    Text.hexValue parts.2 + a < 16 ^ (14 - byteLength parts.1) ∧
      Text.hexValue parts.2 + a + b < 2 ^ 64 := by
  constructor
  · rintro h ⟨stem, suffix⟩ hsplit
    rw [← utf8ByteSize_ofList]
    exact h stem suffix _ (isIdentifier_iff.mpr ⟨split?_eq_some_iff.mp hsplit, rfl⟩)
  · intro h stem suffix value hid
    obtain ⟨hparts, rfl⟩ := isIdentifier_iff.mp hid
    rw [utf8ByteSize_ofList]
    exact h (stem, suffix) (split?_eq_some_iff.mpr hparts)

instance : Decidable (p.HasRoom a b s) := decidable_of_iff _ hasRoom_iff.symm

theorem shift?_of_isMatch_eq_false (h : p.isMatch s = false) : p.shift? n s = none := by
  rw [isMatch, Option.isSome_eq_false_iff, Option.isNone_iff_eq_none] at h
  rw [shift?, h, Option.bind_none]

theorem exists_isIdentifier (h : p.isMatch s = true) :
    ∃ stem suffix value, p.IsIdentifier s stem suffix value := by
  obtain ⟨stem, suffix, hsplit⟩ := isMatch_iff.mp h
  exact ⟨stem, suffix, split?_eq_some_iff_exists.mp hsplit⟩

namespace HasRoom

theorem isSome_shift? (h : p.HasRoom a b s) (hn : n ≤ a + b) :
    (p.shift? n s).isSome = p.isMatch s := by
  cases hmatch : p.isMatch s with
  | false => rw [shift?_of_isMatch_eq_false hmatch, Option.isSome_none]
  | true =>
    obtain ⟨stem, suffix, value, hid⟩ := exists_isIdentifier hmatch
    have hfits := (h stem suffix value hid).2
    rw [hid.shift?_eq (by omega), Option.isSome_some]

/-- **The second offset goes on where the first one has ended.** -/
theorem shift?_shifted (h : p.HasRoom a b s) :
    p.shift? b (shifted p a s) = p.shift? (a + b) s := by
  cases hmatch : p.isMatch s with
  | false =>
    have hstays : shifted p a s = s := by
      rw [shifted, shift?_of_isMatch_eq_false hmatch, Option.getD_none]
    rw [hstays, shift?_of_isMatch_eq_false hmatch, shift?_of_isMatch_eq_false hmatch]
  | true =>
    obtain ⟨stem, suffix, value, hid⟩ := exists_isIdentifier hmatch
    obtain ⟨hbound, hfits⟩ := h stem suffix value hid
    have hfirst := hid.shiftsTo (n := a) (by omega)
    have hagain := hfirst.isIdentifier_iff.mpr hbound
    rw [shifted, hid.shift?_eq hfirst.fits, Option.getD_some, hagain.shift?_eq hfits,
      hid.shift?_eq (by rwa [← Nat.add_assoc]), ← Nat.add_assoc,
      Text.hexPadded_of_le (Nat.le_add_right _ _)]

theorem shifted_shifted (h : p.HasRoom a b s) :
    shifted p b (shifted p a s) = shifted p (a + b) s := by
  have hfirst := h.isSome_shift? (Nat.le_add_right a b)
  have hsum := h.isSome_shift? (Nat.le_refl _)
  rw [shifted, h.shift?_shifted, shifted, shifted]
  cases hmatch : p.isMatch s with
  | false => rw [shift?_of_isMatch_eq_false hmatch, shift?_of_isMatch_eq_false hmatch]; rfl
  | true =>
    rw [hmatch] at hsum
    obtain ⟨t, ht⟩ := Option.isSome_iff_exists.mp hsum
    rw [ht, Option.getD_some, Option.getD_some]

end HasRoom

end NodeIdPattern

namespace Json

/-- **Two shifts of a document are one shift by their sum**, as long as there is room for its
identifiers; all of these shifts count the identifiers of the document. -/
theorem shiftNodeIds_add (document : Json) (p : NodeIdPattern) (a b : Nat)
    (hroom : ∀ s ∈ document.strings, p.HasRoom a b s) :
    (document.shiftNodeIds p a).1.shiftNodeIds p b = document.shiftNodeIds p (a + b) ∧
      (document.shiftNodeIds p a).2 = document.strings.countP p.isMatch ∧
      (document.shiftNodeIds p (a + b)).2 = document.strings.countP p.isMatch := by
  have hcount {n : Nat} (hn : n ≤ a + b) :
      (document.shiftNodeIds p n).2 = document.strings.countP p.isMatch := by
    rw [shiftNodeIds, mapStrings_count]
    apply List.countP_congr
    intro s hs
    rw [(hroom s hs).isSome_shift? hn]
  refine ⟨Prod.ext ?_ ?_, hcount (Nat.le_add_right a b), hcount (Nat.le_refl _)⟩
  · show (document.rewrite (p.shift? a)).rewrite (p.shift? b) = document.rewrite (p.shift? (a + b))
    rw [rewrite_rewrite]
    apply rewrite_congr
    intro s hs
    exact (hroom s hs).shifted_shifted
  · show ((document.rewrite (p.shift? a)).mapStrings (p.shift? b)).2 = _
    rw [hcount (Nat.le_refl _), mapStrings_count, strings_rewrite, List.countP_map]
    apply List.countP_congr
    intro s hs
    have hsecond : (p.shift? b (rewriteText (p.shift? a) s)).isSome = p.isMatch s := by
      rw [← (hroom s hs).isSome_shift? (Nat.le_refl _), ← (hroom s hs).shift?_shifted]
      rfl
    rw [Function.comp_apply, hsecond]

/-- A document whose strings stand at several depths: an identifier that the second offset makes
longer, one in capital letters, and two that are none. -/
def nested : Json :=
  .arr [.obj [("id", .str "aaaaaaaa.ffffe"), ("type", .str "tab"), ("aaaaaaaa.00001", .null)],
    .obj [("id", .str "bbbbbbb.0FFFFFF"), ("wires", .arr [.arr [.str "aaaaaaaa.ffffe"], .arr []]),
      ("host", .str "storage.local")]]

/-- Both ways lead to the same document. -/
theorem shiftNodeIds_add_nested :
    (∀ s ∈ nested.strings, NodeIdPattern.legacy.HasRoom 1 2 s) ∧
      (nested.shiftNodeIds .legacy 1).1.shiftNodeIds .legacy 2 = nested.shiftNodeIds .legacy 3 ∧
      (nested.shiftNodeIds .legacy 1).2 = 3 ∧
      (nested.shiftNodeIds .legacy 3).1.strings =
        ["aaaaaaaa.100001", "tab", "bbbbbbb.1000002", "aaaaaaaa.100001", "storage.local"] := by
  have hroom : ∀ s ∈ nested.strings, NodeIdPattern.legacy.HasRoom 1 2 s := by decide +kernel
  obtain ⟨hsame, hcount, -⟩ := shiftNodeIds_add nested .legacy 1 2 hroom
  refine ⟨hroom, hsame, ?_, by decide +kernel⟩
  rw [hcount]
  decide +kernel

end Json

end UplinkFlow
