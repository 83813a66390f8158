import UplinkFlow.Proofs.Binary64.Integer
import UplinkFlow.Record.Timestamp

/-!
# How exact a time in epoch units is

An integer and the text of an integer are scaled in different arithmetic.

* `timestamp_whole` — **an integer is scaled exactly, or refused if the time fits no signed word.**
* `scaledTimestamp_eq` — a number without a fraction is rounded once more when it is scaled.
* `timestamp_digits` — the text of an integer is rounded twice.
* `IsTextTime` — how the time of such a text lies to the time of the integer.
* `timestamp_text` — **a text is as exact as double precision is**: exactly the times that are
  double-precision numbers are kept, and no time is off by more than 2048 nanoseconds.
-/

set_option autoImplicit false

namespace UplinkFlow

open Binary64 (HasParts IsInteger IsWhole apart nearestWhole unitsPerOne withSign natAbs_withSign)

variable {format : TimestampFormat} {n k : Int} {unit m : Nat} {x : Binary64} {negative : Bool}

/-- A number of nanoseconds that fits a signed word. -/
def IsNanoseconds (n : Int) : Prop := -0x8000000000000000 ≤ n ∧ n < 0x8000000000000000

instance (n : Int) : Decidable (IsNanoseconds n) := inferInstanceAs (Decidable (_ ∧ _))

theorem nanoseconds_eq (n : Int) :
    nanoseconds n = if IsNanoseconds n then .ok (Int64.ofInt n) else .error .outOfRange := rfl

theorem nanoseconds_toInt (h : IsNanoseconds n) : (Int64.ofInt n).toInt = n :=
  Int64.toInt_ofInt_of_le h.1 h.2

theorem isNanoseconds_withSign (h : m < 0x8000000000000000) :
    IsNanoseconds (withSign negative m) := by
  cases negative <;> simp only [withSign, IsNanoseconds] <;> omega

theorem IsNanoseconds.le (h : IsNanoseconds (withSign negative m)) : m ≤ 0x8000000000000000 := by
  rw [← natAbs_withSign negative m]
  unfold IsNanoseconds at h
  omega

theorem IsNanoseconds.inj {m' : Nat} (h : IsNanoseconds (withSign negative m))
    (h' : IsNanoseconds (withSign negative m'))
    (heq : Int64.ofInt (withSign negative m) = Int64.ofInt (withSign negative m')) : m = m' := by
  have htime := congrArg Int64.toInt heq
  rw [nanoseconds_toInt h, nanoseconds_toInt h'] at htime
  have hsize := congrArg Int.natAbs htime
  rwa [natAbs_withSign, natAbs_withSign] at hsize

theorem TimestampFormat.unit_bounds (h : format.unitNanos? = some unit) :
    0 < unit ∧ unit ≤ 1000000000 := by
  cases format <;> cases h <;> decide

theorem mul_unit_lt (hm : m ≤ 0x20000000000000000) (hunit : unit ≤ 1000000000) :
    m * unit < 2 ^ 96 :=
  calc m * unit ≤ 0x20000000000000000 * 1000000000 := Nat.mul_le_mul hm hunit
    _ < 2 ^ 96 := by decide

/-- A number without a fraction is rounded when it is scaled, and kept or refused after that. -/
theorem scaledTimestamp_eq (hx : HasParts x negative (m * unitsPerOne))
    (hm : m ≤ 0x20000000000000000) (hunit : unit ≤ 1000000000) :
    scaledTimestamp x unit =
      if nearestWhole (m * unit) < 0x8000000000000000 then
        .ok (Int64.ofInt (withSign negative (nearestWhole (m * unit))))
      else .error .outOfRange := by
  have hfactor : HasParts (Binary64.ofInt unit) false (unit * unitsPerOne) := by
    have hparts := Binary64.denotes_ofInt (n := unit) (by omega)
    rwa [decide_eq_false (by omega), Int.natAbs_natCast] at hparts
  have hproduct := Binary64.hasParts_mul hx hfactor (Binary64.log2_lt (mul_unit_lt hm hunit))
  simp [scaledTimestamp, hx.finite, hproduct.finite, Binary64.truncate_of_hasParts hproduct]

/-! ## Integers -/

/-- Integers of 64 bits without a sign leave the exact arithmetic, but none of them is a time. -/
theorem scaledTimestamp_beyond (hlow : 0x8000000000000000 ≤ n) (hhigh : n < 0x10000000000000000)
    (hpos : 0 < unit) (hunit : unit ≤ 1000000000) :
    scaledTimestamp (Binary64.ofInt n) unit = .error .outOfRange := by
  have habs : 0x8000000000000000 ≤ n.natAbs ∧ n.natAbs < 0x10000000000000000 := by omega
  have hlog : Nat.log2 n.natAbs < 1023 := Binary64.log2_lt (Nat.lt_trans habs.2 (by decide))
  have hnearest : 0x8000000000000000 ≤ nearestWhole n.natAbs :=
    Binary64.two_pow_le_nearestWhole (k := 63) habs.1
  have hbound := Binary64.nearestWhole_le n.natAbs
  have hproduct : 0x8000000000000000 ≤ nearestWhole (nearestWhole n.natAbs * unit) :=
    Binary64.two_pow_le_nearestWhole (k := 63)
      (Nat.le_trans hnearest (Nat.le_mul_of_pos_right _ hpos))
  rw [scaledTimestamp_eq (Binary64.hasParts_ofInt hlog) (by omega) hunit,
    if_neg (Nat.not_lt.mpr hproduct)]

/-- **An integer is scaled exactly, or refused if the time fits no signed word.** -/
theorem timestamp_whole (hformat : format.unitNanos? = some unit)
    (fits : -0x8000000000000000 ≤ n ∧ n < 0x10000000000000000) :
    timestamp (.num (.whole n fits)) format = nanoseconds (n * unit) := by
  obtain ⟨hpos, hunit⟩ := TimestampFormat.unit_bounds hformat
  by_cases hword : n < 0x8000000000000000
  · simp [timestamp, hformat, Json.signedWord?, hword]
  · have hle : n * 1 ≤ n * unit := Int.mul_le_mul_of_nonneg_left (by omega) (by omega)
    have hbeyond : ¬ IsNanoseconds (n * unit) := by
      unfold IsNanoseconds
      omega
    rw [nanoseconds_eq, if_neg hbeyond,
      ← scaledTimestamp_beyond (Int.not_lt.mp hword) fits.2 hpos hunit]
    simp [timestamp, hformat, Json.signedWord?, Json.numeric?, Number.toBinary64, hword]

/-! ## Texts -/

theorem timestamp_digits {s : String} (htext : IsInteger (Text.trim s).toList k)
    (hformat : format.unitNanos? = some unit) (hrange : IsNanoseconds (k * unit)) :
    ∃ negative m, k * unit = withSign negative (m * unit) ∧
      timestamp (.str s) format =
        if nearestWhole (nearestWhole m * unit) < 0x8000000000000000 then
          .ok (Int64.ofInt (withSign negative (nearestWhole (nearestWhole m * unit))))
        else .error .outOfRange := by
  obtain ⟨hpos, hunit⟩ := TimestampFormat.unit_bounds hformat
  obtain ⟨negative, m, rfl, hread⟩ := Binary64.ofText?_integer htext
  rw [Binary64.withSign_mul] at hrange ⊢
  refine ⟨negative, m, rfl, ?_⟩
  have hm : m ≤ m * unit := Nat.le_mul_of_pos_right m hpos
  have hproduct := hrange.le
  have hbound := Binary64.nearestWhole_le m
  have hparts := @Binary64.hasParts_ofDecimal m negative (by omega)
  rw [← scaledTimestamp_eq hparts (by omega) hunit]
  simp [timestamp, hformat, Json.signedWord?, Json.numeric?, hread]

/-- Each of the two roundings is off by 1024 at most. -/
theorem apart_twice (h : m * unit ≤ 0x8000000000000000) :
    apart (nearestWhole (nearestWhole m * unit)) (m * unit) ≤ 2048 := by
  -- the error of the first rounding grows with the unit, as the bound on it does
  have hfirst : apart (nearestWhole m * unit) (m * unit) ≤ 1024 := by
    have hnear := Nat.mul_le_mul_right unit (Binary64.apart_nearestWhole m)
    have hmul : apart (nearestWhole m * unit) (m * unit) = apart (nearestWhole m) m * unit := by
      unfold apart
      rw [← Nat.sub_mul, ← Nat.sub_mul, ← Nat.add_mul]
    rw [hmul]
    refine Nat.le_of_mul_le_mul_right ?_ (Nat.two_pow_pos 53)
    calc apart (nearestWhole m) m * unit * 2 ^ 53
        = apart (nearestWhole m) m * 2 ^ 53 * unit := Nat.mul_right_comm _ _ _
      _ ≤ m * unit := hnear
      _ ≤ 1024 * 2 ^ 53 := h
  have hsecond : apart (nearestWhole (nearestWhole m * unit)) (nearestWhole m * unit) ≤ 1024 := by
    have hnear := Binary64.apart_nearestWhole (nearestWhole m * unit)
    unfold apart at hfirst hnear ⊢
    omega
  unfold apart at hfirst hsecond ⊢
  omega

/-- Two roundings keep what is a double-precision number, and nothing else. -/
theorem twice_eq_iff (hpos : 0 < unit) (h : m * unit ≤ 0x8000000000000000) :
    nearestWhole (nearestWhole m * unit) = m * unit ↔ IsWhole (withSign negative (m * unit)) := by
  have hlog : Nat.log2 (m * unit) < 1023 := Binary64.log2_lt (Nat.lt_of_le_of_lt h (by decide))
  rw [Binary64.isWhole_iff (by rwa [natAbs_withSign]), natAbs_withSign]
  constructor
  · intro heq
    have hbound : nearestWhole m * unit ≤ 2 * (m * unit) := by
      rw [← Nat.mul_assoc]
      exact Nat.mul_le_mul_right unit (Binary64.nearestWhole_le m)
    have hdouble : nearestWhole m * unit ≤ 0x10000000000000000 :=
      Nat.le_trans hbound (Nat.mul_le_mul_left 2 h)
    have hlast := Binary64.lastPlace_dvd_nearestWhole
      (Binary64.log2_lt (Nat.lt_of_le_of_lt hdouble (by decide)))
    rwa [heq] at hlast
  · intro hdvd
    have hshort : Binary64.IsShort m :=
      (Binary64.isShort_iff.mpr hdvd).of_mul (Nat.ne_of_gt hpos)
    rw [Binary64.nearestWhole_of_dvd (Binary64.isShort_iff.mp hshort),
      Binary64.nearestWhole_of_dvd hdvd]

/-- What becomes of a text whose time is `n` nanoseconds.

* `exact` — the time is kept exactly if it is a double-precision number and not the least time;
* `near` — another time is off by at most 2048 nanoseconds;
* `refused` — a text is refused only as out of range, and only at the ends of the range. -/
structure IsTextTime (n : Int) (found : Except TimestampFault Int64) : Prop where
  exact : found = .ok (Int64.ofInt n) ↔ IsWhole n ∧ n ≠ -0x8000000000000000
  near : ∀ t, found = .ok t → (t.toInt - n).natAbs ≤ 2048
  refused : ∀ reason, found = .error reason →
    reason = .outOfRange ∧ 0x7FFFFFFFFFFFF800 ≤ n.natAbs

/-- A rounded time that is kept or refused lies to the time as rounding has left it. -/
theorem isTextTime_rounded {found : Nat} (hkept : found = m ↔ IsWhole (withSign negative m))
    (hapart : apart found m ≤ 2048) (hrange : IsNanoseconds (withSign negative m)) :
    IsTextTime (withSign negative m)
      (if found < 0x8000000000000000 then .ok (Int64.ofInt (withSign negative found))
        else .error .outOfRange) := by
  by_cases hlt : found < 0x8000000000000000
  · rw [if_pos hlt]
    have hfound := @isNanoseconds_withSign found negative hlt
    refine ⟨?_, ?_, nofun⟩
    · rw [← hkept]
      constructor
      · intro heq
        have hsame := hfound.inj hrange (Except.ok.inj heq)
        refine ⟨hsame, fun hleast => ?_⟩
        have hsize := congrArg Int.natAbs hleast
        rw [natAbs_withSign] at hsize
        omega
      · rintro ⟨rfl, -⟩
        rfl
    · intro t ht
      cases ht
      rwa [nanoseconds_toInt hfound, Binary64.natAbs_sub_withSign]
  · rw [if_neg hlt]
    refine ⟨⟨nofun, ?_⟩, nofun, ?_⟩
    · -- what is kept and yet refused is the least time
      rintro ⟨hwhole, hne⟩
      have heq := hkept.mpr hwhole
      cases negative <;> simp only [withSign, IsNanoseconds] at hrange hne <;> omega
    · intro reason hreason
      cases hreason
      refine ⟨rfl, ?_⟩
      rw [natAbs_withSign]
      unfold apart at hapart
      omega

/-- **A text is as exact as double precision is**, while an integer is exact. -/
theorem timestamp_text {s : String} (htext : IsInteger (Text.trim s).toList k)
    (hformat : format.unitNanos? = some unit) (hrange : IsNanoseconds (k * unit)) :
    IsTextTime (k * unit) (timestamp (.str s) format) ∧
      ∀ fits, timestamp (.num (.whole k fits)) format = .ok (Int64.ofInt (k * unit)) := by
  obtain ⟨hpos, -⟩ := TimestampFormat.unit_bounds hformat
  refine ⟨?_, fun fits => by rw [timestamp_whole hformat, nanoseconds_eq, if_pos hrange]⟩
  obtain ⟨negative, m, htime, hfound⟩ := timestamp_digits htext hformat hrange
  rw [htime] at hrange ⊢
  rw [hfound]
  exact isTextTime_rounded (twice_eq_iff hpos hrange.le) (apart_twice hrange.le) hrange

/-- A whole second is kept. -/
theorem timestamp_text_second :
    IsInteger (Text.trim " +1700000000\n").toList 1700000000 ∧
      timestamp (.str " +1700000000\n") .epochSeconds = .ok 1700000000000000000 := by
  have htext : IsInteger (Text.trim " +1700000000\n").toList 1700000000 :=
    @IsInteger.plus "1700000000".toList nofun (List.all_eq_true.mp rfl)
  have hwhole : IsWhole 1700000000000000000 :=
    (Binary64.isWhole_iff (by decide)).mpr (by decide)
  have hformat : TimestampFormat.epochSeconds.unitNanos? = some 1000000000 := rfl
  have htime := (timestamp_text htext hformat (by decide)).1
  exact ⟨htext, htime.exact.mpr ⟨hwhole, by decide⟩⟩

/-- **The text of a nanosecond of today is not**: its last digits are lost. -/
theorem text_time_is_rounded : ¬ ∀ (s : String) (k : Int) (format : TimestampFormat) (unit : Nat),
    IsInteger (Text.trim s).toList k → format.unitNanos? = some unit →
      IsNanoseconds (k * unit) → timestamp (.str s) format = .ok (Int64.ofInt (k * unit)) := by
  intro hall
  have htext : IsInteger (Text.trim "1700000000123456789").toList 1700000000123456789 :=
    .plain nofun (List.all_eq_true.mp rfl)
  have hexact := hall "1700000000123456789" 1700000000123456789 .epochNanos 1 htext rfl (by decide)
  have hrounded : timestamp (.str "1700000000123456789") .epochNanos =
      .ok 1700000000123456768 := by decide +kernel
  rw [hrounded] at hexact
  exact absurd (Except.ok.inj hexact) (by decide)

end UplinkFlow
