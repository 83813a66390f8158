import UplinkFlow.Layout.Document
import UplinkFlow.Layout.Validation
import UplinkFlow.Proofs.Sensor.RoundTrip
import UplinkFlow.Script.Printer

/-!
# A layout's document

* `FieldKind.IsNormal` — a type that is denoted by its own name, as every type is that has been
  read.
* `Layout.reader_toJson` — a layout with such types is read from its own document.
* `Layout.rereading_toJson` — **every layout that has been read is read again as it is**, from what
  is written of it.
* `descriptions_round_trip` — **nothing is lost or changed when a sensor and a layout that have been
  read are written and read again**, so they are valid as before and have the same plan and script.
-/

set_option autoImplicit false

namespace UplinkFlow

/-! ## Words -/

@[simp] theorem Reader.word_ofWord (w : UInt64) : Reader.word (.num (Number.ofWord w)) = .ok w := by
  simp [Reader.word, Number.ofWord]

theorem Number.readsBack_ofWord (w : UInt64) : (Number.ofWord w).ReadsBack :=
  Number.readsBack_whole _ _

/-! ## Fields -/

/-- A type that is denoted by its own name. -/
def FieldKind.IsNormal (kind : FieldKind) : Prop := FieldKind.ofName kind.name = kind

/-- The type that a name denotes is denoted by its own name, which may be another. -/
theorem FieldKind.isNormal_ofName (name : String) : (FieldKind.ofName name).IsNormal := by
  by_cases hint : name = "int"
  · subst hint
    rfl
  by_cases huint : name = "uint"
  · subst huint
    rfl
  by_cases hfloat : name = "float"
  · subst hfloat
    rfl
  by_cases hascii : name = "string" ∨ name = "string_ascii"
  · rcases hascii with rfl | rfl <;> rfl
  by_cases hunicode : name = "string_unicode"
  · subst hunicode
    rfl
  · have hunknown : FieldKind.ofName name = .unknown name := by
      rw [ofName, if_neg hint, if_neg huint, if_neg hfloat, if_neg hascii, if_neg hunicode]
    rw [IsNormal, hunknown, FieldKind.name, hunknown]

namespace Field

variable {f : Field}

theorem isNormal_of_reader {o : Outline} (h : reader o = .ok f) : f.kind.IsNormal := by
  have hfill : ∀ slot ∈ slots, ∀ o (d d' : Draft), (∀ kind ∈ d.kind, kind.IsNormal) →
      slot.fill o d = .ok d' → ∀ kind ∈ d'.kind, kind.IsNormal := by
    intro slot hslot o d d' hd hfill
    simp only [slots, List.mem_cons, List.not_mem_nil, or_false] at hslot
    rcases hslot with rfl | rfl | rfl | rfl
    all_goals obtain ⟨a, hread, rfl⟩ := Reader.slot_fill_eq_ok hfill
    case inr.inl =>
      rintro kind ⟨⟩
      rw [Reader.map] at hread
      cases hname : Reader.string o with
      | error e => simp [hname, Except.map] at hread
      | ok name =>
        obtain rfl : FieldKind.ofName name = a := by simpa [hname, Except.map] using hread
        exact FieldKind.isNormal_ofName name
    all_goals exact hd
  obtain ⟨d, hd, hfinish⟩ := Reader.record_invariant hfill (by nofun) h
  split at hfinish
  · cases hfinish
    exact hd _ rfl
  · cases hfinish

theorem reader_toJson (h : f.kind.IsNormal) : reader (Outline.ofJson f.toJson) = .ok f := by
  obtain ⟨name, kind, offset, length⟩ := f
  have hkind : FieldKind.ofName kind.name = kind := h
  simp [reader, Reader.record, toJson, Outline.ofJson, Outline.ofMembers, Reader.members, slots,
    Reader.slot, Reader.string, Reader.map, Except.map, bind, Except.bind, pure, Except.pure, hkind]

theorem readsBackWithin_toJson (f : Field) : f.toJson.ReadsBackWithin 1 := by
  simp [toJson, Number.readsBack_ofWord]

end Field

/-! ## Time -/

namespace TimeRule

theorem reader_toJson (t : TimeRule) : reader (Outline.ofJson t.toJson) = .ok t := by
  obtain ⟨source, field, format⟩ := t
  rcases source with _ | _ <;> rcases field with _ | field <;>
    rcases format with _ | _ | _ | _ | _ <;> rfl

theorem readsBackWithin_toJson (t : TimeRule) : t.toJson.ReadsBackWithin 1 := by
  obtain ⟨source, field, format⟩ := t
  cases field <;> cases format <;> simp [toJson]

end TimeRule

/-! ## Layouts -/

namespace Layout

variable {layout : Layout}

theorem isNormal_of_reader {o : Outline} (h : reader o = .ok layout) :
    ∀ f ∈ layout.fields, f.kind.IsNormal := by
  have hfill : ∀ slot ∈ slots, ∀ o (d d' : Draft),
      (∀ fields ∈ d.fields, ∀ f ∈ fields, f.kind.IsNormal) → slot.fill o d = .ok d' →
        ∀ fields ∈ d'.fields, ∀ f ∈ fields, f.kind.IsNormal := by
    intro slot hslot o d d' hd hfill
    simp only [slots, List.mem_cons, List.not_mem_nil, or_false] at hslot
    rcases hslot with rfl | rfl | rfl | rfl | rfl
    all_goals obtain ⟨a, hread, rfl⟩ := Reader.slot_fill_eq_ok hfill
    case inr.inr.inl =>
      rintro fields ⟨⟩
      exact Reader.forall_of_list (fun _ _ => Field.isNormal_of_reader) hread
    all_goals exact hd
  obtain ⟨d, hd, hfinish⟩ := Reader.record_invariant hfill (by nofun) h
  split at hfinish
  · cases hfinish
    exact hd _ rfl
  · cases hfinish

/-- A layout with fields of normal types is read from its own document. -/
theorem reader_toJson (h : ∀ f ∈ layout.fields, f.kind.IsNormal) :
    reader (Outline.ofJson layout.toJson) = .ok layout := by
  obtain ⟨kind, version, fields, time, measurement⟩ := layout
  have hfields := Reader.list_ofJson fun f hf => Field.reader_toJson (h f hf)
  have htime := TimeRule.reader_toJson time
  have hmeasurement : measurementReader
      (.obj false [(some "measurement", .str measurement)] true) = .ok measurement := rfl
  simp only [Outline.ofJson] at hfields
  simp [reader, Reader.record, toJson, Outline.ofJson, Outline.ofMembers, Reader.members, slots,
    Reader.slot, Reader.string, Except.map, bind, Except.bind, pure, Except.pure, hfields, htime,
    hmeasurement]

theorem readsBack_toJson (layout : Layout) : layout.toJson.ReadsBack := by
  have hfields : (Json.arr (layout.fields.map Field.toJson)).ReadsBackWithin 2 :=
    Json.readsBackWithin_arr.mpr
      (List.forall_mem_map.mpr fun f _ => Field.readsBackWithin_toJson f)
  have htime : layout.time.toJson.ReadsBackWithin 2 :=
    (TimeRule.readsBackWithin_toJson layout.time).mono (by decide)
  have hall : layout.toJson.ReadsBackWithin 3 := by
    rw [toJson, Json.readsBackWithin_obj]
    simp [-Json.readsBackWithin_arr, hfields, htime]
  exact hall.mono (by decide)

/-- **Every layout that has been read is read again as it is.** -/
theorem rereading_toJson {o : Outline} (h : reader o = .ok layout) {found : Option Layout}
    (hfound : reader.Rereading layout.toJson found) : found = some layout := by
  rw [hfound.eq_ofJson? (readsBack_toJson layout)]
  exact Reader.ofJson?_eq_some.mpr (reader_toJson (isNormal_of_reader h))

end Layout

/-! ## Both together -/

/-- **A sensor and a layout that have been read, from whatever form of theirs, are written and read
again as they are**: the result of reading what is written is never anything else, it is written as
before, it is as valid as before, and it makes the same plan and the same script. -/
theorem descriptions_round_trip {sensorForm layoutForm : Outline} {sensor : Sensor}
    {layout : Layout} (hsensor : Sensor.reader sensorForm = .ok sensor)
    (hlayout : Layout.reader layoutForm = .ok layout) :
    (∀ found, Sensor.reader.Rereading sensor.toJson found → found = some sensor) ∧
    (∀ found, Layout.reader.Rereading layout.toJson found → found = some layout) ∧
    ∀ sensor' layout', Sensor.reader.Rereading sensor.toJson (some sensor') →
      Layout.reader.Rereading layout.toJson (some layout') →
        sensor'.toJson = sensor.toJson ∧ layout'.toJson = layout.toJson ∧
        sensor'.validate = sensor.validate ∧ layout'.validate = layout.validate ∧
        Plan.of sensor' layout' = Plan.of sensor layout ∧
        decoderText sensor' layout' = decoderText sensor layout := by
  refine ⟨fun _ => Sensor.rereading_toJson hsensor, fun _ => Layout.rereading_toJson hlayout, ?_⟩
  intro sensor' layout' hsensor' hlayout'
  obtain rfl : sensor' = sensor := Option.some.inj (Sensor.rereading_toJson hsensor hsensor')
  obtain rfl : layout' = layout := Option.some.inj (Layout.rereading_toJson hlayout hlayout')
  exact ⟨rfl, rfl, rfl, rfl, rfl, rfl⟩

/-- A sensor as an array, with a tag that comes twice. -/
def sampleSensorForm : Outline :=
  .arr false [.str "bed-3", .str "node", .str "1",
    .arr false [.str "dev-01", .str "farm-app", .str "key"] true,
    .obj false [(some "room", .str "a"), (some "bed", .str "3"), (some "room", .str "b")] true] true

/-- A layout with names that are written otherwise, a type that is not known, and a key that is
ignored. -/
def sampleLayoutForm : Outline :=
  .obj false [(some "comment", .null),
    (some "fields", .arr false
      [.arr false [.str "at", .str "string", .num (.ofWord 0), .num (.ofWord 4)] true,
        .obj false [(some "length_bytes", .num (.ofWord 2)), (some "type", .str "half"),
          (some "offset_bytes", .num (.ofWord 4)), (some "name", .str "depth")] true] true),
    (some "time", .obj false [(some "format", .obj false [(some "noon", .null)] true),
      (some "from", .str "field"), (some "field", .null)] true),
    (some "db", .arr false [.str "soil"] true)] true

/-- The sensor and the layout of the sample forms are read again as they are, out of their texts
too. -/
theorem descriptions_round_trip_aliases :
    ∃ sensor layout, Sensor.reader sampleSensorForm = .ok sensor ∧
      Layout.reader sampleLayoutForm = .ok layout ∧
      sensor.tags = [("bed", "3"), ("room", "b")] ∧
      layout.fields.map (·.kind) = [.asciiText, .unknown "half"] ∧
      layout.time = ⟨.device, none, some .calendar⟩ ∧
      (∀ found, Sensor.reader.Rereading sensor.toJson found → found = some sensor) ∧
      ∀ found, Layout.reader.Rereading layout.toJson found → found = some layout := by
  have hsensor : Sensor.reader sampleSensorForm = .ok ⟨"bed-3", "node", "1",
    ⟨"dev-01", "farm-app", "key"⟩, [("bed", "3"), ("room", "b")]⟩ := rfl
  have hlayout : Layout.reader sampleLayoutForm = .ok ⟨"", "",
    [⟨"at", .asciiText, 0, 4⟩, ⟨"depth", .unknown "half", 4, 2⟩],
    ⟨.device, none, some .calendar⟩, "soil"⟩ := rfl
  obtain ⟨hsensor', hlayout', -⟩ := descriptions_round_trip hsensor hlayout
  exact ⟨_, _, hsensor, hlayout, rfl, rfl, rfl, hsensor', hlayout'⟩

end UplinkFlow
