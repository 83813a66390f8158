import UplinkFlow.Text.Utf8

/-!
# The bytes of a text

* `utf8Bytes_eq` — the bytes of a text are those of its characters.
* `ofUtf8?_utf8Bytes` — a text is read back from its bytes.
* `Utf8State.run_encoded`, `symbols_utf8Bytes`, `lossyUtf8_utf8Bytes` — so it is by the readers that
  accept any bytes, one character after the other.
-/

set_option autoImplicit false

namespace UplinkFlow.Text

theorem ofUtf8?_utf8Bytes (s : String) : ofUtf8? (utf8Bytes s) = some s := by
  have hbytes : (⟨(utf8Bytes s).toArray⟩ : ByteArray) = s.toUTF8 := by simp [utf8Bytes]
  rw [ofUtf8?, hbytes]
  simp only [String.fromUTF8?, String.toUTF8_eq_toByteArray, dif_pos s.isValidUTF8]
  rfl

theorem utf8Bytes_ofList (cs : List Char) :
    utf8Bytes (String.ofList cs) = cs.flatMap String.utf8EncodeChar := by
  simp [utf8Bytes, String.toByteArray_ofList, List.utf8Encode]

theorem utf8Bytes_eq (s : String) : utf8Bytes s = s.toList.flatMap String.utf8EncodeChar := by
  rw [← utf8Bytes_ofList, String.ofList_toList]

namespace Utf8State

variable {b low high value : Nat} {rest : List UInt8}

/-! ## First bytes -/

theorem start_ascii (h : b < 0x80) : start b = (.between, [some (Char.ofNat b)]) := by
  rw [start, if_pos h]

theorem start_two (h : 0xc2 ≤ b) (h' : b ≤ 0xdf) :
    start b = (.within 1 0x80 0xbf (b - 0xc0), []) := by
  rw [start, if_neg (by omega), if_pos ⟨h, h'⟩]

/-- The first of three bytes narrows the second one where a shorter form or a surrogate would
follow. -/
theorem start_three (h : 0xe0 ≤ b) (h' : b ≤ 0xef) : ∃ low high,
    start b = (.within 2 low high (b - 0xe0), []) ∧
      ∀ next, 0x80 ≤ next → next ≤ 0xbf → (b = 0xe0 → 0xa0 ≤ next) → (b = 0xed → next ≤ 0x9f) →
        low ≤ next ∧ next ≤ high := by
  unfold start
  rw [if_neg (by omega), if_neg (by omega)]
  by_cases hlow : b = 0xe0
  · exact ⟨0xa0, 0xbf, by simp [hlow], by omega⟩
  by_cases hhigh : b = 0xed
  · exact ⟨0x80, 0x9f, by simp [hhigh], by omega⟩
  · exact ⟨0x80, 0xbf, by simp [hlow, hhigh]; omega, by omega⟩

/-- The first of four bytes narrows the second one where a shorter form or no character would
follow. -/
theorem start_four (h : 0xf0 ≤ b) (h' : b ≤ 0xf4) : ∃ low high,
    start b = (.within 3 low high (b - 0xf0), []) ∧
      ∀ next, 0x80 ≤ next → next ≤ 0xbf → (b = 0xf0 → 0x90 ≤ next) → (b = 0xf4 → next ≤ 0x8f) →
        low ≤ next ∧ next ≤ high := by
  unfold start
  rw [if_neg (by omega), if_neg (by omega), if_neg (by omega), if_neg (by omega), if_neg (by omega)]
  by_cases hlow : b = 0xf0
  · exact ⟨0x90, 0xbf, by simp [hlow], by omega⟩
  by_cases hhigh : b = 0xf4
  · exact ⟨0x80, 0x8f, by simp [hhigh], by omega⟩
  · exact ⟨0x80, 0xbf, by simp [hlow]; omega, by omega⟩

/-! ## Further bytes -/

theorem run_between (n : Nat) (hn : n < 256) :
    between.run (UInt8.ofNat n :: rest) = (start n).2 ++ (start n).1.run rest := by
  rw [run, step, UInt8.toNat_ofNat_of_lt' hn]

theorem run_within {need n : Nat} (hneed : 1 < need) (hn : n < 256) (hlow : low ≤ n)
    (hhigh : n ≤ high) :
    (within need low high value).run (UInt8.ofNat n :: rest) =
      (within (need - 1) 0x80 0xbf (value * 64 + (n - 0x80))).run rest := by
  rw [run, step, UInt8.toNat_ofNat_of_lt' hn, if_pos ⟨hlow, hhigh⟩, if_neg (by omega)]
  rfl

theorem run_last {n : Nat} (hn : n < 256) (hlow : low ≤ n) (hhigh : n ≤ high) :
    (within 1 low high value).run (UInt8.ofNat n :: rest) =
      some (Char.ofNat (value * 64 + (n - 0x80))) :: between.run rest := by
  rw [run, step, UInt8.toNat_ofNat_of_lt' hn, if_pos ⟨hlow, hhigh⟩, if_pos (Nat.le_refl 1)]
  rfl

/-! ## Characters -/

theorem run_encoded (c : Char) (rest : List UInt8) :
    between.run (String.utf8EncodeChar c ++ rest) = some c :: between.run rest := by
  have hvalid : c.toNat < 0xd800 ∨ 0xdfff < c.toNat ∧ c.toNat < 0x110000 := c.valid
  have hself : ∀ {n}, n = c.toNat → Char.ofNat n = c := by
    rintro n rfl
    exact Char.ofNat_toNat c
  unfold String.utf8EncodeChar
  simp only [show c.val.toNat = c.toNat from rfl]
  generalize c.toNat = v at hvalid hself
  split
  · rw [List.singleton_append, run_between v (by omega), start_ascii (by omega), hself rfl]
    rfl
  split
  · rw [List.cons_append, List.singleton_append, run_between _ (by omega),
      start_two (by omega) (by omega), List.nil_append, run_last (by omega) (by omega) (by omega),
      hself (by omega)]
  split
  · obtain ⟨low, high, hstart, hnext⟩ :=
      @start_three (v / 4096 % 16 + 224) (by omega) (by omega)
    obtain ⟨hlow, hhigh⟩ := hnext (v / 64 % 64 + 128) (by omega) (by omega) (by omega) (by omega)
    rw [List.cons_append, List.cons_append, List.singleton_append, run_between _ (by omega), hstart,
      List.nil_append, run_within (by decide) (by omega) hlow hhigh,
      run_last (by omega) (by omega) (by omega), hself (by omega)]
  · obtain ⟨low, high, hstart, hnext⟩ :=
      @start_four (v / 262144 % 8 + 240) (by omega) (by omega)
    obtain ⟨hlow, hhigh⟩ := hnext (v / 4096 % 64 + 128) (by omega) (by omega) (by omega) (by omega)
    rw [List.cons_append, List.cons_append, List.cons_append, List.singleton_append,
      run_between _ (by omega), hstart, List.nil_append,
      run_within (by decide) (by omega) hlow hhigh,
      run_within (by decide) (by omega) (by omega) (by omega),
      run_last (by omega) (by omega) (by omega), hself (by omega)]

end Utf8State

theorem symbols_utf8Bytes (s : String) : symbols (utf8Bytes s) = s.toList.map some := by
  rw [symbols, utf8Bytes_eq]
  induction s.toList with
  | nil => rfl
  | cons c cs ih => rw [List.flatMap_cons, Utf8State.run_encoded, ih, List.map_cons]

/-- A text is read back from its bytes also by the reader that accepts any bytes. -/
theorem lossyUtf8_utf8Bytes (s : String) : lossyUtf8 (utf8Bytes s) = s := by
  rw [lossyUtf8, symbols_utf8Bytes, List.map_map, ← String.toList_inj, String.toList_ofList]
  exact List.map_id _

end UplinkFlow.Text
