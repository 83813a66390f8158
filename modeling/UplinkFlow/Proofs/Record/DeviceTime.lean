import UplinkFlow.Proofs.Layout.Decoding
import UplinkFlow.Proofs.Record.Timestamp

/-!
# Times in integer fields

* `Layout.TimesInteger` — a layout whose time is an integer field in epoch units.
* `Layout.IsExact` — the time of a record is that of the field, or there is no record.
* `Layout.isExact_of_timesInteger` — **the time of an integer field is exact or refused**, for every
  payload that has all fields.
-/

set_option autoImplicit false

namespace UplinkFlow

variable {f : Field} {payload : Payload} {layout : Layout} {unit : Nat}

/-! ## Integer fields -/

theorem Field.read_integer (hkind : f.kind = .int ∨ f.kind = .uint) (hlength : f.HasWordLength)
    (hfits : f.FitsIn payload) : ∃ n fits, f.read payload = .ok (some (.num (.whole n fits))) := by
  have hwidth := width?_of_integer hkind hlength
  obtain ⟨bytes, hbytes⟩ := hfits.exists_window hwidth
  rw [read_of_window hwidth hbytes, valueOf]
  rcases hkind with hkind | hkind
  · rw [hkind]
    exact ⟨_, _, rfl⟩
  · rw [hkind]
    exact ⟨_, _, rfl⟩

/-! ## Decoding -/

namespace Layout

/-- The time of a layout is its integer field `f`, in units of so many nanoseconds. -/
structure TimesInteger (layout : Layout) (f : Field) (unit : Nat) : Prop where
  distinct : (layout.fields.map (·.name)).Nodup
  declared : f ∈ layout.fields
  integer : f.kind = .int ∨ f.kind = .uint
  readable : f.HasWordLength
  timed : ∃ format, layout.time = ⟨.device, some f.name, some format⟩ ∧
    format.unitNanos? = some unit

/-- The time of a record is that of the field `f`, or there is no record.

* `read` — the field holds the integer `n`;
* `exact` — if `n` units are a time, the record has that time;
* `refused` — otherwise the field is reported, and there is no record. -/
structure IsExact (layout : Layout) (sensor : Sensor) (payload : Payload) (received : Int64)
    (f : Field) (unit : Nat) (n : Int) : Prop where
  read : ∃ fits, f.read payload = .ok (some (.num (.whole n fits)))
  exact : IsNanoseconds (n * unit) → ∃ record fits,
    (Plan.of sensor layout).decode payload received = .ok record ∧
      record.fields.member? timeKey = some (.num (.whole (n * unit) fits))
  refused : ¬ IsNanoseconds (n * unit) →
    (Plan.of sensor layout).decode payload received =
      .error (.invalidTimestamp f.name .outOfRange)

namespace TimesInteger

variable {sensor : Sensor} {received : Int64} (h : layout.TimesInteger f unit)

include h

theorem mem_plan : f ∈ (Plan.of sensor layout).fields := by
  refine List.mem_filter.mpr ⟨h.declared, ?_⟩
  rcases h.integer with hkind | hkind <;> rw [hkind] <;> rfl

/-- The fields are read, and the value of `f` stands under its name. -/
theorem exists_values (hfits : ∀ g ∈ layout.fields, g.FitsIn payload) {value : Json}
    (hread : f.read payload = .ok (some value)) :
    ∃ values, readFields payload (Plan.of sensor layout).fields [] = .ok values ∧
      values.member? f.name = some value := by
  have hall : ∀ g ∈ (Plan.of sensor layout).fields, g.isBeyond payload = false := fun g hg =>
    (hfits g (List.mem_filter.mp hg).1).isBeyond
  obtain ⟨values, hvalues⟩ := @exists_readFields payload _ [] hall
  have hnames : ((Plan.of sensor layout).fields.map (·.name)).Nodup :=
    h.distinct.sublist (List.filter_sublist.map _)
  exact ⟨values, hvalues, readFields_member? hvalues hnames h.mem_plan hread⟩

end TimesInteger

/-- **The time of an integer field is exact or refused**, for every payload that has all fields. -/
theorem isExact_of_timesInteger (h : layout.TimesInteger f unit)
    (hfits : ∀ g ∈ layout.fields, g.FitsIn payload) (sensor : Sensor) (received : Int64) :
    ∃ n, layout.IsExact sensor payload received f unit n := by
  obtain ⟨n, fits, hread⟩ := f.read_integer h.integer h.readable (hfits f h.declared)
  obtain ⟨values, hvalues, hvalue⟩ := @TimesInteger.exists_values _ _ _ _ sensor h hfits _ hread
  obtain ⟨format, htime, hformat⟩ := h.timed
  have htiming : (Plan.of sensor layout).time = .device (some f.name) format := by
    show layout.time.timing = _
    rw [htime]
    rfl
  -- whether there is a record depends on this time alone: all fields have been read
  have htimestamp := timestamp_whole hformat fits
  refine ⟨n, ⟨fits, hread⟩, fun hrange => ?_, fun hrange => ?_⟩
  · obtain ⟨hbounds, hnumber⟩ := Number.ofInt64_ofInt hrange.1 hrange.2
    rw [nanoseconds_eq, if_pos hrange] at htimestamp
    have hstored : addTime (Plan.of sensor layout).time received values =
        .ok (values.insert timeKey (.num (.whole (n * unit) hbounds))) := by
      simp only [addTime, htiming, hvalue, htimestamp, hnumber]
    refine ⟨⟨values.insert timeKey (.num (.whole (n * unit) hbounds)),
      (Plan.of sensor layout).tags⟩, hbounds, ?_, ?_⟩
    · exact bind_eq_ok_iff.mpr ⟨values, hvalues, bind_eq_ok_iff.mpr ⟨_, hstored, rfl⟩⟩
    · rw [Members.member?_insert, if_pos rfl]
  · rw [nanoseconds_eq, if_neg hrange] at htimestamp
    refine Plan.decode_eq_error_iff.mpr (.inr ⟨values, hvalues, ?_⟩)
    simp only [addTime, htiming, hvalue, htimestamp]

/-- A layout whose time is an unsigned number of nanoseconds. -/
def nanosecondsLayout : Layout where
  kind := "clock"
  version := "1"
  fields := [⟨"status", .uint, 0, 1⟩, ⟨"t", .uint, 1, 8⟩]
  time := ⟨.device, some "t", some .epochNanos⟩
  measurement := "clock"

/-- Nanoseconds of today are exact, and those that no signed word holds are refused. -/
theorem isExact_of_timesInteger_nanoseconds :
    let plan := Plan.of clockSensor nanosecondsLayout
    nanosecondsLayout.TimesInteger ⟨"t", .uint, 1, 8⟩ 1 ∧
      (∃ record fits,
        plan.decode [0x07, 0x15, 0xcd, 0x85, 0x3d, 0xfe, 0x9c, 0x97, 0x17] 0 = .ok record ∧
          record.fields.member? timeKey = some (.num (.whole 1700000000123456789 fits))) ∧
      plan.decode [0x07, 0, 0, 0, 0, 0, 0, 0, 0x80] 0 =
        .error (.invalidTimestamp "t" .outOfRange) := by
  have htimes : nanosecondsLayout.TimesInteger ⟨"t", .uint, 1, 8⟩ 1 :=
    ⟨by decide, by decide, .inr rfl, .inr rfl, .epochNanos, rfl, rfl⟩
  have hexact (payload : Payload) (n : Int) (hlength : payload.length = 9)
      (hread : ∃ fits, Field.read ⟨"t", .uint, 1, 8⟩ payload = .ok (some (.num (.whole n fits)))) :
      nanosecondsLayout.IsExact clockSensor payload 0 ⟨"t", .uint, 1, 8⟩ 1 n := by
    have hfits : ∀ g ∈ nanosecondsLayout.fields, g.FitsIn payload := by
      simp [nanosecondsLayout, Field.FitsIn, Field.width?, hlength]
    obtain ⟨m, h⟩ := isExact_of_timesInteger htimes hfits _ 0
    obtain ⟨fits, hfound⟩ := h.read
    obtain ⟨fits', hread⟩ := hread
    rw [hread] at hfound
    cases hfound
    exact h
  refine ⟨htimes, ?_, ?_⟩
  · exact (hexact _ 1700000000123456789 rfl ⟨_, rfl⟩).exact (by decide)
  · exact (hexact _ 0x8000000000000000 rfl ⟨_, rfl⟩).refused (by decide)

end Layout

end UplinkFlow
