import UplinkFlow.NodeId.Shift
import UplinkFlow.Proofs.Json.Pointer
import UplinkFlow.Proofs.NodeId.Clash

/-!
# The shape of the strings that a shift changes

* `NodeIdPattern.HasParts` — the grammar of identifiers; `NodeIdPattern.split?_eq_some_iff` — a text
  is divided into these parts, and no other text is.
* `NodeIdPattern.Moves`, `NodeIdPattern.shifted_ne_iff` — which texts an offset changes.
* `IsHexPair` — two runs of hexadecimal digits with a dot between them.
* `Json.shiftNodeIds_changes` — **which strings of a document are changed**, wherever they stand,
  and when these are hexadecimal pairs only: nothing looks at the digits of a stem.
* `Json.hostName_changes` — the name of a host that is taken for an identifier.
-/

set_option autoImplicit false

namespace UplinkFlow

open NodeIdPattern (shifted byteLength)
open Text (hexValue hexPadded maxWord isHexDigit)

variable {p : NodeIdPattern} {n : Nat} {s : String} {stem suffix : List Char}

/-- A run of hexadecimal digits of either case. -/
def IsHexRun (cs : List Char) : Prop := cs ≠ [] ∧ ∀ c ∈ cs, isHexDigit c = true

instance (cs : List Char) : Decidable (IsHexRun cs) :=
  decidable_of_iff (cs ≠ [] ∧ cs.all isHexDigit = true) (by simp only [IsHexRun, List.all_eq_true])

/-- A run of hexadecimal digits, a dot and another such run. -/
def IsHexPair (s : String) : Prop :=
  ∃ stem suffix, s.toList = stem ++ '.' :: suffix ∧ IsHexRun stem ∧ IsHexRun suffix

theorem IsHexRun.notMem_dot {cs : List Char} (h : IsHexRun cs) : '.' ∉ cs := by
  intro hdot
  exact absurd (h.2 _ hdot) (by decide)

namespace NodeIdPattern

/-! ## The parts of an identifier -/

/-- A text is an identifier with this stem and this suffix.

* `text`, `dotless` — they stand on the two sides of the first dot;
* `bytes` — the stem and the whole have lengths that the pattern admits;
* `digits` — the suffix is a run of hexadecimal digits. -/
structure HasParts (p : NodeIdPattern) (s : String) (stem suffix : List Char) : Prop where
  text : s.toList = stem ++ '.' :: suffix
  dotless : '.' ∉ stem
  bytes : p.admits (byteLength stem) (byteLength s.toList) = true
  digits : IsHexRun suffix

/-- **Exactly the texts with such parts are divided, and into these parts.** -/
theorem split?_eq_some_iff : p.split? s = some (stem, suffix) ↔ p.HasParts s stem suffix := by
  constructor
  · intro h
    obtain ⟨htext, hdotless, hbytes⟩ := split?_spec h
    refine ⟨htext, hdotless, hbytes, ?_⟩
    unfold split? at h
    split at h
    · rename_i rest hrest
      simp only [Option.ite_none_right_eq_some, Bool.and_eq_true, Option.some.injEq,
        Prod.mk.injEq] at h
      obtain ⟨⟨⟨-, hne⟩, hall⟩, -, rfl⟩ := h
      exact ⟨by simpa using hne, List.all_eq_true.mp hall⟩
    · cases h
  · intro h
    have hstem : ∀ c ∈ stem, (c != '.') = true := by
      intro c hc
      rw [bne_iff_ne]
      rintro rfl
      exact h.dotless hc
    have htake : s.toList.takeWhile (· != '.') = stem := by
      rw [h.text, List.takeWhile_append_of_pos hstem]
      simp
    have hdrop : s.toList.dropWhile (· != '.') = '.' :: suffix := by
      rw [h.text, List.dropWhile_append_of_pos hstem]
      simp
    have hne : suffix.isEmpty = false := by simpa using h.digits.1
    simp only [split?, htake, hdrop, h.bytes, hne, List.all_eq_true.mpr h.digits.2, Bool.not_false,
      Bool.and_self, if_true]

theorem HasParts.stem_ne_nil (h : p.HasParts s stem suffix) : stem ≠ [] := by
  rintro rfl
  have hbytes := h.bytes
  cases p <;> simp [admits, byteLength] at hbytes

/-- An identifier is a hexadecimal pair exactly if its stem consists of hexadecimal digits. -/
theorem HasParts.isHexPair_iff (h : p.HasParts s stem suffix) : IsHexPair s ↔ IsHexRun stem := by
  constructor
  · rintro ⟨stem', suffix', htext, hstem', -⟩
    rw [h.text, dot_append_inj h.dotless hstem'.notMem_dot] at htext
    obtain ⟨rfl, -⟩ := htext
    exact hstem'
  · intro hstem
    exact ⟨stem, suffix, h.text, hstem, h.digits⟩

/-! ## What an offset changes -/

/-- An offset changes an identifier with these parts.

* `fits` — the sum does not leave 64 bits;
* `differs` — the suffix is another one afterwards, if only in the case of its letters. -/
structure Moves (p : NodeIdPattern) (n : Nat) (s : String) (stem suffix : List Char) : Prop
    extends p.HasParts s stem suffix where
  fits : hexValue suffix + n ≤ maxWord
  differs : n ≠ 0 ∨ ∃ c ∈ suffix, 'A' ≤ c ∧ c ≤ 'F'

/-- The suffix stays the same exactly if nothing is added to it and it has no capital letters. -/
theorem hexPadded_add_eq_iff (h : IsHexRun suffix) :
    hexPadded suffix.length (hexValue suffix + n) = suffix ↔
      ¬ (n ≠ 0 ∨ ∃ c ∈ suffix, 'A' ≤ c ∧ c ≤ 'F') := by
  obtain ⟨hne, hdigits⟩ := h
  obtain ⟨c, cs, rfl⟩ := List.exists_cons_of_ne_nil hne
  have hzero : hexPadded (c :: cs).length (hexValue (c :: cs) + n) = c :: cs → n = 0 := by
    intro heq
    have hvalue := congrArg hexValue heq
    rw [Text.hexValue_hexPadded] at hvalue
    omega
  by_cases hn : n = 0
  · subst hn
    rw [Nat.add_zero, Text.hexPadded_hexValue_eq_iff hdigits]
    simp
  · constructor
    · intro heq
      exact absurd (hzero heq) hn
    · intro hnot
      exact absurd (.inl hn) hnot

theorem HasParts.stays_iff (h : p.HasParts s stem suffix) (hfits : hexValue suffix + n ≤ maxWord) :
    shifted p n s = s ↔ ¬ (n ≠ 0 ∨ ∃ c ∈ suffix, 'A' ≤ c ∧ c ≤ 'F') := by
  rw [shifted_of_le (split?_eq_some_iff.mpr h) hfits, ← String.toList_inj, String.toList_ofList,
    h.text, dot_append_inj h.dotless h.dotless, hexPadded_add_eq_iff h.digits]
  exact and_iff_right rfl

/-- **Which texts an offset changes.** -/
theorem shifted_ne_iff : shifted p n s ≠ s ↔ ∃ stem suffix, p.Moves n s stem suffix := by
  constructor
  · intro hne
    cases hparts : p.split? s with
    | none =>
      have hstays : shifted p n s = s := by simp [shifted, shift?, hparts]
      exact absurd hstays hne
    | some parts =>
      obtain ⟨stem, suffix⟩ := parts
      have h := split?_eq_some_iff.mp hparts
      rcases Nat.lt_or_ge maxWord (hexValue suffix + n) with hlt | hle
      · exact absurd (shifted_of_lt hparts hlt) hne
      · rw [ne_eq, h.stays_iff hle, Classical.not_not] at hne
        exact ⟨stem, suffix, h, hle, hne⟩
  · rintro ⟨stem, suffix, h⟩ hstays
    exact (h.stays_iff h.fits).mp hstays h.differs

end NodeIdPattern

namespace Json

/-! ## Documents -/

theorem at?_shiftNodeIds {document : Json} {place : List Step}
    (h : document.at? place = some (.str s)) :
    (document.shiftNodeIds p n).1.at? place = some (.str (shifted p n s)) := by
  show (document.rewrite (p.shift? n)).at? place = _
  rw [at?_rewrite, h, Option.map_some, rewrite_str]
  rfl

/-- **Which strings of a document are changed.**  At every place stands the string that stood there,
moved by the offset, and that is another one exactly if it was an identifier of the pattern whose
sum fits and whose suffix differs afterwards; every other string is left as it was.  The strings
that are changed are hexadecimal pairs exactly if each of their stems consists of hexadecimal
digits, which the pattern does not ask for. -/
theorem shiftNodeIds_changes (document : Json) (p : NodeIdPattern) (n : Nat) :
    (∀ place s, document.at? place = some (.str s) →
      (document.shiftNodeIds p n).1.at? place = some (.str (shifted p n s)) ∧
        (shifted p n s ≠ s ↔ ∃ stem suffix, p.Moves n s stem suffix)) ∧
    ((∀ place s s', document.at? place = some (.str s) →
        (document.shiftNodeIds p n).1.at? place = some (.str s') → s' ≠ s → IsHexPair s) ↔
      ∀ place s stem suffix, document.at? place = some (.str s) → p.Moves n s stem suffix →
        ∀ c ∈ stem, isHexDigit c = true) := by
  constructor
  · intro place s hs
    exact ⟨at?_shiftNodeIds hs, NodeIdPattern.shifted_ne_iff⟩
  constructor
  · intro honly place s stem suffix hs hmoves
    have hne := NodeIdPattern.shifted_ne_iff.mpr ⟨stem, suffix, hmoves⟩
    have hpair := honly place s _ hs (at?_shiftNodeIds hs) hne
    exact (hmoves.isHexPair_iff.mp hpair).2
  · intro hstems place s s' hs hs' hne
    rw [at?_shiftNodeIds hs, Option.some.injEq, Json.str.injEq] at hs'
    subst hs'
    obtain ⟨stem, suffix, hmoves⟩ := NodeIdPattern.shifted_ne_iff.mp hne
    exact hmoves.isHexPair_iff.mpr ⟨hmoves.stem_ne_nil, hstems place s stem suffix hs hmoves⟩

/-- A document of a node that connects to a host. -/
def connection : Json :=
  .arr [.obj [("id", .str "a4c6e2f8.51d7b3"), ("type", .str "influxdb"),
    ("hostname", .str "storage.facade")]]

/-- The name of the host is changed with the identifier, and is no hexadecimal pair. -/
theorem hostName_changes :
    connection.at? [.item 0, .key "hostname"] = some (.str "storage.facade") ∧
      (connection.shiftNodeIds .legacy 1).1.at? [.item 0, .key "hostname"] =
        some (.str "storage.facadf") ∧ "storage.facadf" ≠ "storage.facade" ∧
      ¬ IsHexPair "storage.facade" := by
  have hhost : connection.at? [.item 0, .key "hostname"] = some (.str "storage.facade") := rfl
  have hmoved : shifted .legacy 1 "storage.facade" = "storage.facadf" := by decide +kernel
  have hparts : NodeIdPattern.legacy.HasParts "storage.facade" "storage".toList "facade".toList :=
    NodeIdPattern.split?_eq_some_iff.mp (by decide +kernel)
  refine ⟨hhost, ?_, by decide, ?_⟩
  · rw [at?_shiftNodeIds hhost, hmoved]
  · rw [hparts.isHexPair_iff]
    decide +kernel

end Json

end UplinkFlow
