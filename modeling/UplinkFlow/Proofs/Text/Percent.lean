import UplinkFlow.Proofs.Text.Utf8
import UplinkFlow.Text.Percent

/-!
# Percent-encoding is undone

* `IsKept` — a set of characters that can stand for themselves: ASCII without the percent sign.
* `percentDecode_percentEncode` — **decoding gives back the bytes of the characters that were
  encoded, whichever of them stand for themselves.**
* `ofUtf8?_percentDecode` — hence it gives back the text.
-/

set_option autoImplicit false

namespace UplinkFlow.Text

variable {keep : Char → Bool} {rest : List UInt8}

/-- The characters of which `keep` holds can stand for themselves. -/
def IsKept (keep : Char → Bool) : Prop := ∀ c, keep c = true → c.toNat < 0x80 ∧ c ≠ '%'

/-! ## Single characters -/

theorem utf8EncodeChar_ascii {c : Char} (h : c.toNat < 0x80) :
    String.utf8EncodeChar c = [UInt8.ofNat c.toNat] := by
  have hle : c.val.toNat ≤ 127 := Nat.le_of_lt_succ h
  unfold String.utf8EncodeChar
  exact if_pos hle

theorem percentDecode_cons {b : UInt8} (h : b ≠ 37) :
    percentDecode (b :: rest) = b :: percentDecode rest := by
  rw [percentDecode.eq_def]
  split
  · rename_i heq
    exact absurd (List.cons.inj heq).1 h
  · rename_i heq
    obtain ⟨rfl, rfl⟩ := List.cons.inj heq
    rfl
  · rename_i heq
    cases heq

theorem upperHexDigit_ascii : ∀ d, d < 16 → (upperHexDigit d).toNat < 0x80 := by decide

theorem hexDigit?_upperHexDigit : ∀ d, d < 16 →
    hexDigit? (Char.ofNat (UInt8.ofNat (upperHexDigit d).toNat).toNat) = some d := by
  decide

theorem percentDecode_percentByte (b : UInt8) :
    percentDecode ((percentByte b).flatMap String.utf8EncodeChar ++ rest) =
      b :: percentDecode rest := by
  have hlt := b.toNat_lt
  have hhigh : b.toNat / 16 < 16 := by omega
  have hlow : b.toNat % 16 < 16 := by omega
  have hbytes : (percentByte b).flatMap String.utf8EncodeChar =
      [37, UInt8.ofNat (upperHexDigit (b.toNat / 16)).toNat,
        UInt8.ofNat (upperHexDigit (b.toNat % 16)).toNat] := by
    have hpercent : String.utf8EncodeChar '%' = [37] := rfl
    simp only [percentByte, List.flatMap_cons, List.flatMap_nil, hpercent,
      utf8EncodeChar_ascii (upperHexDigit_ascii _ hhigh),
      utf8EncodeChar_ascii (upperHexDigit_ascii _ hlow), List.cons_append, List.nil_append]
  have hvalue : b.toNat / 16 * 16 + b.toNat % 16 = b.toNat := by omega
  rw [hbytes, List.cons_append, List.cons_append, List.singleton_append, percentDecode,
    hexDigit?_upperHexDigit _ hhigh, hexDigit?_upperHexDigit _ hlow]
  simp only [hvalue, UInt8.ofNat_toNat]

theorem percentDecode_percentBytes (bytes : List UInt8) :
    percentDecode ((bytes.flatMap percentByte).flatMap String.utf8EncodeChar ++ rest) =
      bytes ++ percentDecode rest := by
  induction bytes with
  | nil => rfl
  | cons b bytes ih =>
    rw [List.flatMap_cons, List.flatMap_append, List.append_assoc, percentDecode_percentByte, ih]
    rfl

theorem percentDecode_percentChar (hkeep : IsKept keep) (c : Char) :
    percentDecode ((percentChar keep c).flatMap String.utf8EncodeChar ++ rest) =
      String.utf8EncodeChar c ++ percentDecode rest := by
  unfold percentChar
  split
  · rename_i hc
    obtain ⟨hascii, hpercent⟩ := hkeep c hc
    have hne : UInt8.ofNat c.toNat ≠ 37 := by
      intro heq
      have hnat : c.toNat = 37 := by
        have := congrArg UInt8.toNat heq
        rwa [UInt8.toNat_ofNat_of_lt' (Nat.lt_trans hascii (by decide))] at this
      exact hpercent (Char.toNat_inj.mp hnat)
    rw [List.flatMap_singleton, utf8EncodeChar_ascii hascii, List.singleton_append,
      percentDecode_cons hne, List.singleton_append]
  · exact percentDecode_percentBytes _

/-! ## Texts -/

theorem percentDecode_percentEncode (hkeep : IsKept keep) (cs : List Char) :
    percentDecode (utf8Bytes (String.ofList (percentEncode keep cs))) =
      utf8Bytes (String.ofList cs) := by
  rw [utf8Bytes_ofList, utf8Bytes_ofList]
  induction cs with
  | nil => rfl
  | cons c cs ih =>
    rw [percentEncode] at ih ⊢
    rw [List.flatMap_cons, List.flatMap_append, percentDecode_percentChar hkeep, ih,
      List.flatMap_cons]

/-- Decoding gives back the text that was encoded. -/
theorem ofUtf8?_percentDecode (hkeep : IsKept keep) (cs : List Char) :
    ofUtf8? (percentDecode (utf8Bytes (String.ofList (percentEncode keep cs)))) =
      some (String.ofList cs) := by
  rw [percentDecode_percentEncode hkeep, ofUtf8?_utf8Bytes]

end UplinkFlow.Text
