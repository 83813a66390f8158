import UplinkFlow.Proofs.Binary64.Widening
import UplinkFlow.Proofs.Record.LittleEndian
import UplinkFlow.Proofs.Record.Reading
import UplinkFlow.Proofs.Text.Utf8

/-!
# Fields that hold an encoded value

* `Payload.Holds` — the bytes stand in a payload from an offset on.
* `Field.ReadsWritten` — what a field of each kind gives when its bytes are those of a value.
* `Field.readsWritten` — **reading undoes writing**, for every field and every payload.
-/

set_option autoImplicit false

namespace UplinkFlow

open Binary64 (singleExponent singleIsNegative singleValue)

variable {f : Field} {payload : Payload} {bytes : List UInt8} {offset : Nat}

/-- The bytes stand in the payload from an offset on. -/
def Payload.Holds (payload : Payload) (offset : Nat) (bytes : List UInt8) : Prop :=
  ∃ before after, payload = before ++ bytes ++ after ∧ before.length = offset

theorem Payload.Holds.window? (h : payload.Holds offset bytes) :
    window? payload offset bytes.length = some bytes := by
  obtain ⟨before, after, rfl, rfl⟩ := h
  have hfits : offsetAfter before.length bytes.length ≤ (before ++ bytes ++ after).length := by
    simp [offsetAfter]
  rw [UplinkFlow.window?, if_pos hfits, List.append_assoc, List.drop_left, List.take_left]

namespace Field

/-- What a field gives when its bytes are those of a value.

* `unsigned` — a number is read from its bytes;
* `signed` — any bytes are read as the only integer in the range whose two's complement they are;
* `double` — eight bytes give the number of their bits, or no value if the exponent bits are all
  ones;
* `single` — four bytes give the only double-precision number with the sign and the value of the
  pattern, or no value if the exponent bits are all ones;
* `ascii` — each byte gives the character of its seven lower bits;
* `unicode` — a text is read from its bytes. -/
structure ReadsWritten (f : Field) (payload : Payload) : Prop where
  unsigned : f.kind = .uint → f.HasWordLength → ∀ n < patterns f.length.toNat,
    payload.Holds f.offset.toNat (littleEndianBytes f.length.toNat n) →
      ∃ fits, f.read payload = .ok (some (.num (.whole n fits)))
  signed : f.kind = .int → f.HasWordLength → ∀ bytes, bytes.length = f.length.toNat →
    payload.Holds f.offset.toNat bytes →
      ∃ v fits, f.read payload = .ok (some (.num (.whole v fits))) ∧
        IsSigned f.length.toNat v ∧ twosComplement f.length.toNat v = bytes ∧
        ∀ w, IsSigned f.length.toNat w → twosComplement f.length.toNat w = bytes → w = v
  double : f.kind = .float → f.length ≠ 2 → f.length ≠ 4 → ∀ x : Binary64,
    payload.Holds f.offset.toNat (littleEndianBytes 8 x.bits.toNat) →
      (x.exponentBits ≠ 2047 → ∃ finite, f.read payload = .ok (some (.num (.real x finite)))) ∧
        (x.exponentBits = 2047 → f.read payload = .ok (some .null))
  single : f.kind = .float → f.length = 4 → ∀ pattern : UInt32,
    payload.Holds f.offset.toNat (littleEndianBytes 4 pattern.toNat) →
      (singleExponent pattern ≠ 255 → ∃ x finite,
        f.read payload = .ok (some (.num (.real x finite))) ∧
          x.isNegative = singleIsNegative pattern ∧ x.value = singleValue pattern ∧
          ∀ y : Binary64, y.isFinite = true → y.isNegative = singleIsNegative pattern →
            y.value = singleValue pattern → y = x) ∧
        (singleExponent pattern = 255 → f.read payload = .ok (some .null))
  ascii : f.kind = .asciiText → ∀ bytes, bytes.length = f.length.toNat →
    payload.Holds f.offset.toNat bytes →
      ∃ s, f.read payload = .ok (some (.str s)) ∧
        s.toList.map Char.toNat = bytes.map fun b => b.toNat % 128
  unicode : f.kind = .unicodeText → ∀ s, (Text.utf8Bytes s).length = f.length.toNat →
    payload.Holds f.offset.toNat (Text.utf8Bytes s) → f.read payload = .ok (some (.str s))

/-! ## Each kind -/

theorem read_of_holds (hbytes : payload.Holds f.offset.toNat bytes)
    (hwidth : f.width? = some bytes.length) : f.read payload = .ok (some (f.valueOf bytes)) :=
  read_of_window hwidth hbytes.window?

theorem HasWordLength.le_eight (h : f.HasWordLength) : f.length.toNat ≤ 8 := by
  unfold HasWordLength at h
  rw [UInt64.le_iff_toNat_le, UInt64.le_iff_toNat_le, ← UInt64.toNat_inj] at h
  rcases h with ⟨-, hle⟩ | heq
  · exact Nat.le_trans hle (by decide)
  · exact Nat.le_of_eq heq

theorem HasWordLength.patterns_le (h : f.HasWordLength) :
    patterns f.length.toNat ≤ 0x10000000000000000 :=
  UplinkFlow.patterns_le h.le_eight

theorem read_unsigned (hkind : f.kind = .uint) (hlength : f.HasWordLength) {n : Nat}
    (hn : n < patterns f.length.toNat)
    (hbytes : payload.Holds f.offset.toNat (littleEndianBytes f.length.toNat n)) :
    ∃ fits, f.read payload = .ok (some (.num (.whole n fits))) := by
  have hwidth := width?_of_integer (.inr hkind) hlength
  have hword : n < 0x10000000000000000 := Nat.lt_of_lt_of_le hn hlength.patterns_le
  obtain ⟨fits, hnumber⟩ := Number.ofWord_ofNat hword
  refine ⟨fits, ?_⟩
  rw [read_of_holds hbytes (by rw [length_littleEndianBytes, hwidth]), valueOf, hkind]
  simp only [littleEndian_littleEndianBytes hn, hnumber]

theorem read_signed (hkind : f.kind = .int) (hlength : f.HasWordLength)
    (hbytes : bytes.length = f.length.toNat) (hholds : payload.Holds f.offset.toNat bytes) :
    ∃ fits, f.read payload = .ok (some (.num (.whole (signedLittleEndian bytes) fits))) := by
  have hwidth := width?_of_integer (.inl hkind) hlength
  have hbounds := signedLittleEndian_bounds bytes
  have hpatterns := hlength.patterns_le
  rw [hbytes] at hbounds
  obtain ⟨fits, hnumber⟩ := Number.ofInt64_ofInt (v := signedLittleEndian bytes)
    (by omega) (by omega)
  refine ⟨fits, ?_⟩
  rw [read_of_holds hholds (by rw [hbytes, hwidth]),
    valueOf_int hkind hbytes (hbytes ▸ hlength.le_eight), hnumber]

theorem ofBinary64_of_exponentBits (x : Binary64) :
    (x.exponentBits ≠ 2047 → ∃ finite, Json.ofBinary64 x = .num (.real x finite)) ∧
      (x.exponentBits = 2047 → Json.ofBinary64 x = .null) := by
  constructor
  · intro h
    have hfinite : x.isFinite = true := bne_iff_ne.mpr h
    exact ⟨hfinite, dif_pos hfinite⟩
  · intro h
    exact dif_neg fun hfinite => bne_iff_ne.mp hfinite h

theorem read_double (hkind : f.kind = .float) (htwo : f.length ≠ 2) (hfour : f.length ≠ 4)
    {x : Binary64} (hholds : payload.Holds f.offset.toNat (littleEndianBytes 8 x.bits.toNat)) :
    f.read payload = .ok (some (Json.ofBinary64 x)) := by
  have hwidth : f.width? = some 8 := by
    rw [width?, hkind]
    simp only [htwo, hfour, if_false]
  have hbits : littleEndian (littleEndianBytes 8 x.bits.toNat) = x.bits.toNat :=
    littleEndian_littleEndianBytes x.bits.toNat_lt
  rw [read_of_holds hholds (by rw [length_littleEndianBytes, hwidth]), valueOf, hkind]
  simp only [htwo, hfour, if_false, hbits, UInt64.ofNat_toNat]

theorem read_single (hkind : f.kind = .float) (hfour : f.length = 4) {pattern : UInt32}
    (hholds : payload.Holds f.offset.toNat (littleEndianBytes 4 pattern.toNat)) :
    f.read payload = .ok (some (Json.ofBinary64 (Binary64.ofSingle pattern))) := by
  have hwidth : f.width? = some 4 := by
    rw [width?, hkind]
    simp only [hfour, if_true]
    rfl
  have hbits : littleEndian (littleEndianBytes 4 pattern.toNat) = pattern.toNat :=
    littleEndian_littleEndianBytes pattern.toNat_lt
  rw [read_of_holds hholds (by rw [length_littleEndianBytes, hwidth]), valueOf, hkind]
  simp only [hfour, if_true, hbits, UInt32.ofNat_toNat]
  rfl

theorem toNat_asciiText (bytes : List UInt8) :
    (Text.asciiText bytes).toList.map Char.toNat = bytes.map fun b => b.toNat % 128 := by
  rw [Text.asciiText, String.toList_ofList, List.map_map]
  refine List.map_congr_left fun b _ => ?_
  have hvalid : (b.toNat % 128).isValidChar := .inl (by omega)
  rw [Function.comp_apply]
  delta Char.ofNat
  rw [dif_pos hvalid]
  rfl

/-- **Reading undoes writing**, for every field and every payload. -/
theorem readsWritten (f : Field) (payload : Payload) : f.ReadsWritten payload where
  unsigned hkind hlength n hn hholds := read_unsigned hkind hlength hn hholds
  signed hkind hlength bytes hbytes hholds := by
    obtain ⟨fits, hread⟩ := read_signed hkind hlength hbytes hholds
    have hrange : IsSigned f.length.toNat (signedLittleEndian bytes) := by
      rw [← hbytes]
      exact signedLittleEndian_bounds bytes
    have hself : twosComplement f.length.toNat (signedLittleEndian bytes) = bytes := by
      rw [← hbytes]
      exact twosComplement_signedLittleEndian bytes
    refine ⟨_, fits, hread, hrange, hself, fun w hw hsame => ?_⟩
    exact twosComplement_inj hw hrange (hsame.trans hself.symm)
  double hkind htwo hfour x hholds := by
    obtain ⟨hnumber, hnull⟩ := ofBinary64_of_exponentBits x
    rw [read_double hkind htwo hfour hholds]
    constructor
    · intro h
      obtain ⟨finite, hvalue⟩ := hnumber h
      exact ⟨finite, by rw [hvalue]⟩
    · intro h
      rw [hnull h]
  single hkind hfour pattern hholds := by
    rw [read_single hkind hfour hholds]
    constructor
    · intro h
      have hparts := Binary64.hasParts_ofSingle h
      refine ⟨_, hparts.finite, ?_, hparts.sign, Binary64.value_ofSingle h, ?_⟩
      · rw [Json.ofBinary64, dif_pos hparts.finite]
      · intro y hy hsign hvalue
        exact Binary64.eq_of_value hy hparts.finite (hsign.trans hparts.sign.symm)
          (hvalue.trans (Binary64.value_ofSingle h).symm)
    · intro h
      rw [Json.ofBinary64, dif_neg fun hfinite => (Binary64.isFinite_ofSingle _).mp hfinite h]
  ascii hkind bytes hbytes hholds := by
    have hwidth : f.width? = some bytes.length := by
      rw [hbytes, width?, hkind]
    refine ⟨Text.asciiText bytes, ?_, toNat_asciiText bytes⟩
    rw [read_of_holds hholds hwidth, valueOf, hkind]
  unicode hkind s hlength hholds := by
    have hwidth : f.width? = some (Text.utf8Bytes s).length := by
      rw [hlength, width?, hkind]
    rw [read_of_holds hholds hwidth, valueOf, hkind]
    simp only [Text.lossyUtf8_utf8Bytes]

/-- Three bytes of a negative integer, the largest number of eight bytes, and a single-precision
number behind another field. -/
theorem readsWritten_samples :
    (∃ fits, Field.read ⟨"t", .int, 0, 3⟩ [0xfe, 0xff, 0xff] =
        .ok (some (.num (.whole (-2) fits)))) ∧
      (∃ fits, Field.read ⟨"t", .uint, 0, 8⟩ (List.replicate 8 0xff) =
        .ok (some (.num (.whole 0xFFFFFFFFFFFFFFFF fits)))) ∧
      ∃ x finite, Field.read ⟨"t", .float, 1, 4⟩ [7, 0, 0, 0x80, 0xbf] =
        .ok (some (.num (.real x finite))) ∧ x.value = -1 := by
  refine ⟨?_, ?_, ?_⟩
  · have hsigned := (readsWritten ⟨"t", .int, 0, 3⟩ [0xfe, 0xff, 0xff]).signed rfl (by decide)
      [0xfe, 0xff, 0xff] rfl ⟨[], [], rfl, rfl⟩
    obtain ⟨v, fits, hread, -, -, honly⟩ := hsigned
    obtain rfl := honly (-2) (by unfold IsSigned; decide) rfl
    exact ⟨fits, hread⟩
  · exact (readsWritten ⟨"t", .uint, 0, 8⟩ (List.replicate 8 0xff)).unsigned rfl (by decide)
      0xFFFFFFFFFFFFFFFF (by decide) ⟨[], [], rfl, rfl⟩
  · have hsingle := (readsWritten ⟨"t", .float, 1, 4⟩ [7, 0, 0, 0x80, 0xbf]).single rfl rfl
      0xbf800000 ⟨[7], [], rfl, rfl⟩
    obtain ⟨x, finite, hread, -, hvalue, -⟩ := hsingle.1 (by decide)
    have hone : singleValue 0xbf800000 = Binary64.patternValue 23 127 true 127 0 := rfl
    refine ⟨x, finite, hread, hvalue.trans (hone.trans ?_)⟩
    norm_num [Binary64.patternValue]

end Field

end UplinkFlow
