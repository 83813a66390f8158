import UplinkFlow.Proofs.Layout.Validation
import UplinkFlow.Proofs.Record.Reading
import UplinkFlow.Proofs.Script.Agreement

/-!
# Decoding with a valid layout

The check of a layout, the interpreter and the script choose the number of bytes of a field each for
themselves.

* `Field.width?_of_allows` — a field of an allowed length takes exactly that many bytes.
* `Layout.DecodesSafely` — what can become of a payload, and what the script then reads.
* `Layout.decodesSafely_of_validate` — **a layout that has passed the check loses no field and no
  time.**
-/

set_option autoImplicit false

namespace UplinkFlow

variable {f : Field} {layout : Layout} {sensor : Sensor} {payload : Payload} {received : Int64}
  {values : Members} {record : Record} {fault : DecodeFault}

/-! ## Fields of an allowed length -/

theorem FieldKind.Allows.isKnown {kind : FieldKind} {length : UInt64} (h : kind.Allows length) :
    kind.isKnown = true := by
  cases kind with
  | unknown type => exact absurd h id
  | _ => rfl

namespace Field

/-- A field of an allowed length takes exactly that many bytes. -/
theorem width?_of_allows (h : f.kind.Allows f.length) : f.width? = some f.length.toNat := by
  unfold width?
  cases hkind : f.kind with
  | int | uint =>
    simp only [hkind, FieldKind.Allows] at h
    rcases h with h | h | h | h <;> simp [h]
  | float =>
    simp only [hkind, FieldKind.Allows] at h
    rcases h with h | h | h <;> simp [h]
  | asciiText | unicodeText => rfl
  | unknown type =>
    rw [hkind] at h
    exact absurd h id

theorem isBeyond_iff (h : f.kind.Allows f.length) :
    f.isBeyond payload = true ↔ payload.length < f.stop := by
  simp [isBeyond, width?_of_allows h, stop]

theorem exists_call (h : f.kind.Allows f.length) : ∃ call, Call.of? f = some call := by
  refine Option.ne_none_iff_exists'.mp fun hnone => ?_
  have hskip := Call.of?_eq_none_iff.mp hnone
  rw [width?_of_allows h] at hskip
  cases hskip

/-- The line of a script that reads a field. -/
def readLine? (f : Field) : Option String :=
  (Call.of? f).map fun call => Script.storeLine f.name (Script.callText call)

end Field

/-! ## Valid layouts -/

theorem Plan.decode_eq_error_iff {plan : Plan} : plan.decode payload received = .error fault ↔
    readFields payload plan.fields [] = .error fault ∨
      ∃ values, readFields payload plan.fields [] = .ok values ∧
        addTime plan.time received values = .error fault := by
  unfold Plan.decode
  rw [bind_eq_error_iff]
  refine or_congr_right (exists_congr fun values => and_congr_right fun _ => ?_)
  rw [bind_eq_error_iff]
  simp [pure, Except.pure]

namespace Layout

namespace IsValid

variable (h : layout.IsValid)

include h

theorem plan_fields : (Plan.of sensor layout).fields = layout.fields :=
  List.filter_eq_self.mpr fun f hf => (h.allowed f hf).isKnown

/-- A payload that is too short is the only fault of reading. -/
theorem readFields_fault (hread : readFields payload layout.fields values = .error fault) :
    ∃ place, fault = .outOfBounds place ∧ ∃ f ∈ layout.fields, payload.length < f.stop := by
  obtain ⟨f, hfind, rfl⟩ := readFields_eq_error_iff.mp hread
  have hf := List.mem_of_find?_eq_some hfind
  have hbeyond : f.isBeyond payload = true := by simpa using List.find?_some hfind
  exact ⟨_, rfl, f, hf, (Field.isBeyond_iff (h.allowed f hf)).mp hbeyond⟩

theorem exists_outOfBounds (hbeyond : ∃ f ∈ layout.fields, payload.length < f.stop) :
    ∃ place, readFields payload layout.fields values = .error (.outOfBounds place) := by
  have hsome : (layout.fields.find? (·.isBeyond payload)).isSome = true := by
    obtain ⟨f, hf, hlt⟩ := hbeyond
    exact List.find?_isSome.mpr ⟨f, hf, (Field.isBeyond_iff (h.allowed f hf)).mpr hlt⟩
  obtain ⟨f, hfind⟩ := Option.isSome_iff_exists.mp hsome
  exact ⟨_, readFields_eq_error_iff.mpr ⟨f, hfind, rfl⟩⟩

/-- The value of every declared field is there once the fields have been read. -/
theorem isSome_of_readFields (hread : readFields payload layout.fields [] = .ok values)
    {name : String} (hname : name ∈ layout.fields.map (·.name)) :
    (values.member? name).isSome := by
  obtain ⟨f, hf, rfl⟩ := List.mem_map.mp hname
  refine (readFields_isSome_iff hread).mpr (.inr ⟨f, hf, rfl, ?_⟩)
  rw [Field.width?_of_allows (h.allowed f hf)]
  rfl

/-- The only fault of finding the time is that the declared field does not hold one. -/
theorem addTime_fault (hread : readFields payload layout.fields [] = .ok values)
    (htime : addTime layout.time.timing received values = .error fault) :
    ∃ field reason, layout.time.field = some field ∧ fault = .invalidTimestamp field reason := by
  obtain ⟨field, format, htiming, hfault⟩ := addTime_eq_error htime
  have hdevice : layout.time.source = .device ∧ layout.time.field = some field := by
    unfold TimeRule.timing at htiming
    split at htiming
    · cases htiming
    · rename_i hsource
      exact ⟨hsource, (Timing.device.inj htiming).1⟩
  rcases hfault with ⟨hnone, -⟩ | ⟨reason, rfl⟩
  · obtain ⟨name, format, hfield, -, hname⟩ := h.timed hdevice.1
    obtain rfl : name = field := Option.some.inj (hfield.symm.trans hdevice.2)
    have hsome := h.isSome_of_readFields hread hname
    rw [hnone] at hsome
    cases hsome
  · exact ⟨field, reason, hdevice.2, rfl⟩

/-- The faults of decoding: the payload is too short, or the declared field does not hold a time. -/
theorem decode_fault (hdecode : (Plan.of sensor layout).decode payload received = .error fault) :
    (∃ place, fault = .outOfBounds place ∧ ∃ f ∈ layout.fields, payload.length < f.stop) ∨
      ∃ field reason, layout.time.field = some field ∧ fault = .invalidTimestamp field reason := by
  rw [Plan.decode_eq_error_iff, h.plan_fields] at hdecode
  rcases hdecode with hread | ⟨values, hread, htime⟩
  · exact .inl (h.readFields_fault hread)
  · exact .inr (h.addTime_fault hread htime)

theorem timing_ne (format : TimestampFormat) : layout.time.timing ≠ .device none format := by
  intro htiming
  unfold TimeRule.timing at htiming
  split at htiming
  · cases htiming
  · rename_i hsource
    obtain ⟨name, format, hfield, -⟩ := h.timed hsource
    rw [hfield] at htiming
    cases htiming

theorem isSome_of_decode (hdecode : (Plan.of sensor layout).decode payload received = .ok record)
    {name : String} (hname : name ∈ timeKey :: layout.fields.map (·.name)) :
    (record.fields.member? name).isSome := by
  obtain ⟨values, hread, hdecode⟩ := bind_eq_ok_iff.mp hdecode
  obtain ⟨stored, hstored, hdecode⟩ := bind_eq_ok_iff.mp hdecode
  cases hdecode
  rw [h.plan_fields] at hread
  obtain ⟨hkept, htime⟩ := @addTime_isSome _ _ name _ _ hstored
  rcases List.mem_cons.mp hname with rfl | hname
  · exact htime h.timing_ne
  · exact hkept (h.isSome_of_readFields hread hname)

theorem exists_timeStep : ∃ step, TimeStep.of? layout.time.timing = some step := by
  cases htiming : layout.time.timing with
  | network => exact ⟨_, rfl⟩
  | device field format =>
    cases field with
    | none => exact absurd htiming (h.timing_ne format)
    | some field => cases format <;> exact ⟨_, rfl⟩

theorem exists_readLines : ∃ readLines : List String,
    layout.fields.map Field.readLine? = readLines.map some ∧
      (layout.fields.filterMap fun f => (Call.of? f).map fun call => (f.name, call)).map
        (fun (field, call) => Script.storeLine field (Script.callText call)) = readLines := by
  have hallowed := h.allowed
  generalize layout.fields = fields at hallowed
  induction fields with
  | nil => exact ⟨[], rfl, rfl⟩
  | cons f rest ih =>
    obtain ⟨call, hcall⟩ := Field.exists_call (hallowed f List.mem_cons_self)
    obtain ⟨readLines, hlines, hreads⟩ := ih fun g hg => hallowed g (List.mem_cons_of_mem f hg)
    refine ⟨Script.storeLine f.name (Script.callText call) :: readLines, ?_, ?_⟩
    · rw [List.map_cons, List.map_cons, hlines, Field.readLine?, hcall]
      rfl
    · simp only [List.filterMap_cons, hcall, Option.map_some, List.map_cons, hreads]

end IsValid

/-- What can become of a payload, and what the script then reads.

* `timed` — the field of the time is never missing;
* `bounded` — a payload is too short exactly if it ends before one of the fields;
* `fails` — in one that is long enough, at worst the field of the time does not hold one;
* `kept` — a record has every declared field, and the time;
* `scripted` — the script has one line for every declared field, in order, and besides those only
  the line for the time and the ones around. -/
structure DecodesSafely (layout : Layout) (sensor : Sensor) (payload : Payload)
    (received : Int64) : Prop where
  timed : ∀ field,
    (Plan.of sensor layout).decode payload received ≠ .error (.missingTimeField field)
  bounded : (∃ place, (Plan.of sensor layout).decode payload received = .error (.outOfBounds place))
    ↔ ∃ f ∈ layout.fields, payload.length < f.stop
  fails : (∀ f ∈ layout.fields, f.stop ≤ payload.length) → ∀ fault,
    (Plan.of sensor layout).decode payload received = .error fault →
      ∃ field reason, layout.time.field = some field ∧ fault = .invalidTimestamp field reason
  kept : ∀ record, (Plan.of sensor layout).decode payload received = .ok record →
    ∀ name ∈ timeKey :: layout.fields.map (·.name), (record.fields.member? name).isSome
  scripted : ∃ (readLines : List String) (step : TimeStep),
    layout.fields.map Field.readLine? = readLines.map some ∧
      TimeStep.of? layout.time.timing = some step ∧
      (Script.of (Plan.of sensor layout)).lines =
        ["", "var buf = msg.payload_raw;", "var fields = \x7b\x7d;"] ++ readLines ++
          [Script.storeLine timeKey (Script.timeExpression step),
            "msg.payload = [fields, " ++ (Json.obj (Plan.of sensor layout).tags).compact ++ "];",
            "return msg;"]

/-- **A layout that has passed the check loses no field and no time**, for every sensor, every
payload and every time of receipt. -/
theorem decodesSafely_of_validate (h : layout.validate = .ok ()) (sensor : Sensor)
    (payload : Payload) (received : Int64) : layout.DecodesSafely sensor payload received := by
  have hvalid := validate_eq_ok_iff.mp h
  have hfields : (Plan.of sensor layout).fields = layout.fields := hvalid.plan_fields
  refine ⟨fun field hdecode => ?_, ⟨?_, fun hbeyond => ?_⟩, fun hfits fault hdecode => ?_,
    fun record hdecode name hname => hvalid.isSome_of_decode hdecode hname, ?_⟩
  · rcases hvalid.decode_fault hdecode with ⟨place, heq, -⟩ | ⟨field, reason, -, heq⟩ <;> cases heq
  · rintro ⟨place, hdecode⟩
    rcases hvalid.decode_fault hdecode with ⟨_, -, hbeyond⟩ | ⟨field, reason, -, heq⟩
    · exact hbeyond
    · cases heq
  · obtain ⟨place, hread⟩ : ∃ place, readFields payload layout.fields [] =
        .error (.outOfBounds place) := hvalid.exists_outOfBounds hbeyond
    exact ⟨place, Plan.decode_eq_error_iff.mpr (.inl (by rw [hfields]; exact hread))⟩
  · rcases hvalid.decode_fault hdecode with ⟨place, -, f, hf, hbeyond⟩ | htime
    · exact absurd hbeyond (Nat.not_lt.mpr (hfits f hf))
    · exact htime
  · obtain ⟨readLines, hlines, hreads⟩ := hvalid.exists_readLines
    obtain ⟨step, hstep⟩ := hvalid.exists_timeStep
    refine ⟨readLines, step, hlines, hstep, ?_⟩
    have htime : (Plan.of sensor layout).time = layout.time.timing := rfl
    simp [Script.lines, Script.of, hfields, hreads, htime, hstep]

/-- A sensor that tells the time. -/
def clockSensor : Sensor := ⟨"sensorA", "clock", "1", ⟨"dev-01", "farm-app", "key"⟩, []⟩

/-- A layout whose time is a single-precision number of seconds. -/
def secondsLayout : Layout where
  kind := "clock"
  version := "1"
  fields := [⟨"status", .uint, 0, 1⟩, ⟨"t", .float, 1, 4⟩]
  time := ⟨.device, some "t", some .epochSeconds⟩
  measurement := "clock"

/-- Four bytes are too few, and with five bytes only the time can be wrong. -/
theorem decodesSafely_of_validate_seconds :
    let plan := Plan.of clockSensor secondsLayout
    secondsLayout.validate = .ok () ∧
      (∃ place, plan.decode [0x07, 0x00, 0x00, 0xc0] 0 = .error (.outOfBounds place)) ∧
      ∀ fault, plan.decode [0x07, 0x00, 0x00, 0xc0, 0x7f] 0 = .error fault →
        ∃ field reason, some "t" = some field ∧ fault = .invalidTimestamp field reason := by
  intro plan
  have hvalid : secondsLayout.validate = .ok () := rfl
  have hshort := decodesSafely_of_validate hvalid clockSensor [0x07, 0x00, 0x00, 0xc0] 0
  have hlong := decodesSafely_of_validate hvalid clockSensor [0x07, 0x00, 0x00, 0xc0, 0x7f] 0
  exact ⟨hvalid, hshort.bounded.mpr (by decide +kernel), hlong.fails (by decide +kernel)⟩

end Layout

end UplinkFlow
