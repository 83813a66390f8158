import UplinkFlow.Proofs.Binary64.Rounding
import UplinkFlow.Proofs.Except
import UplinkFlow.Proofs.Json.Members
import UplinkFlow.Proofs.Script.Buffer
import UplinkFlow.Record.Basic

/-!
# The script does what the interpreter does

* `SameValue` — a decoded value and a value of the script are the same, where integers that are no
  double-precision numbers are rounded and numbers that are not finite are shown as `null`.
* `of?_eq_none_iff` — the script and the interpreter skip the same fields.
* `expression_of_read` — the read that is written for a field has the field's value.
* `Script.Agrees`, `script_agrees` — **whenever a payload is decoded, the script stores the same
  fields and finds its time in the same way.**
-/

set_option autoImplicit false

namespace UplinkFlow

variable {f : Field} {payload : Payload} {value : Json}

/-! ## Values -/

/-- A decoded value and a value of the script are the same. -/
inductive SameValue : Json → ScriptValue → Prop where
  | whole (n : Int) (fits : -0x8000000000000000 ≤ n ∧ n < 0x10000000000000000) :
    SameValue (.num (.whole n fits)) (.number (.ofInt n))
  | real (x : Binary64) (finite : x.isFinite = true) :
    SameValue (.num (.real x finite)) (.number x)
  | null (x : Binary64) (infinite : x.isFinite = false) : SameValue .null (.number x)
  | text (s : String) : SameValue (.str s) (.text s)

namespace SameValue

theorem exact {n : Int} {fits : -0x8000000000000000 ≤ n ∧ n < 0x10000000000000000} {x : Binary64}
    (h : SameValue (.num (.whole n fits)) (.number x)) (hn : n.natAbs < 0x20000000000000) :
    Binary64.HasParts x (decide (n < 0)) (n.natAbs * Binary64.unitsPerOne) := by
  cases h
  exact Binary64.denotes_ofInt hn

theorem nearest {n : Int} {fits : -0x8000000000000000 ≤ n ∧ n < 0x10000000000000000} {x : Binary64}
    (h : SameValue (.num (.whole n fits)) (.number x)) (y : Binary64) :
    Binary64.apart x.magnitude (n.natAbs * Binary64.unitsPerOne) ≤
      Binary64.apart y.magnitude (n.natAbs * Binary64.unitsPerOne) := by
  cases h
  exact (Binary64.ofInt_nearest (by omega)).2.2 y

theorem ofBinary64 (x : Binary64) : SameValue (Json.ofBinary64 x) (.number x) := by
  unfold Json.ofBinary64
  split
  · rename_i hfinite
    exact .real x hfinite
  · rename_i hfinite
    exact .null x (by simpa using hfinite)

theorem ofInt64 {n : Int} (hlow : -0x8000000000000000 ≤ n) (hhigh : n < 0x8000000000000000) :
    SameValue (.num (Number.ofInt64 (Int64.ofInt n))) (.number (.ofInt n)) := by
  obtain ⟨fits, hnumber⟩ := Number.ofInt64_ofInt hlow hhigh
  rw [hnumber]
  exact .whole n fits

theorem ofWord {n : Nat} (h : n < 0x10000000000000000) :
    SameValue (.num (Number.ofWord (UInt64.ofNat n))) (.number (.ofInt n)) := by
  obtain ⟨fits, hnumber⟩ := Number.ofWord_ofNat h
  rw [hnumber]
  exact .whole n fits

end SameValue

/-! ## Reads -/

namespace Call

/-- There is a read for each number of bytes from one to six, and for eight. -/
theorem integer?_eq_none_iff {signed : Bool} {offset bytes : Nat} :
    integer? signed offset bytes = none ↔ ¬((1 ≤ bytes ∧ bytes ≤ 6) ∨ bytes = 8) := by
  unfold integer?
  repeat' split
  all_goals simp
  all_goals omega

theorem callText_fixed {signed : Bool} {bytes offset : Nat} {bits : String}
    (h : Text.decimal (8 * bytes) = bits) : Script.callText (.fixed signed bytes offset) =
      "buf.read" ++ Script.integerName signed ++ bits ++ "LE" ++ Script.arguments [offset] := by
  rw [← h]
  rfl

/-- The reads of integers differ in their names only. -/
theorem expression_of_integer? {signed : Bool} {offset bytes : Nat} {call : Call}
    (h : integer? signed offset bytes = some call) :
    ∃ e : Expression, Script.callText call = e.text ∧ ∀ buf, e.eval buf =
      (Buffer.integer? buf signed offset bytes).map fun n => .number (.ofInt n) := by
  unfold integer? at h
  split at h
  · rename_i hone
    cases h
    refine ⟨.integer signed .one offset, ?_, fun buf => by rw [hone]; rfl⟩
    cases signed <;> rfl
  split at h
  · rename_i htwo
    cases h
    rcases htwo with rfl | rfl
    · have hbits : Text.decimal (8 * 2) = "16" := by decide +kernel
      refine ⟨.integer signed .two offset, ?_, fun buf => rfl⟩
      rw [callText_fixed hbits]
      cases signed <;> rfl
    · have hbits : Text.decimal (8 * 4) = "32" := by decide +kernel
      refine ⟨.integer signed .four offset, ?_, fun buf => rfl⟩
      rw [callText_fixed hbits]
      cases signed <;> rfl
  split at h
  · rename_i height
    cases h
    refine ⟨.toNumber (.integer signed .eight offset), ?_, fun buf => ?_⟩
    · cases signed <;> rfl
    · rw [height, Expression.eval, Expression.eval, IntegerSize.bytes]
      cases Buffer.integer? buf signed offset 8 <;> rfl
  split at h
  · cases h
    refine ⟨.sized signed offset bytes, ?_, fun buf => ?_⟩
    · cases signed <;> rfl
    · rw [Expression.eval, if_pos (by omega)]
  · cases h

theorem length_iff : ((1 ≤ f.length ∧ f.length ≤ 6) ∨ f.length = 8) ↔
    ((1 ≤ f.length.toNat ∧ f.length.toNat ≤ 6) ∨ f.length.toNat = 8) := by
  simp only [UInt64.le_iff_toNat_le, ← UInt64.toNat_inj]
  rfl

/-- The script skips exactly the fields that take no bytes. -/
theorem of?_eq_none_iff : of? f = none ↔ f.width? = none := by
  unfold of? Field.width?
  cases f.kind with
  | int | uint =>
    simp only [length_iff, integer?_eq_none_iff]
    split <;> simp_all
  | float =>
    simp only [reduceCtorEq, iff_false]
    repeat' split
    all_goals simp
  | asciiText | unicodeText | unknown => simp

end Call

/-! ## Fields -/

/-- What is known of a field that has been read: all its bytes are in the payload. -/
theorem Field.read_eq_some (hsize : payload.length < 0xFFFFFFFFFFFFFFFF)
    (h : f.read payload = .ok (some value)) :
    ∃ width, f.width? = some width ∧ f.offset.toNat + width ≤ payload.length ∧
      value = f.valueOf ((payload.drop f.offset.toNat).take width) := by
  unfold Field.read at h
  split at h
  · cases h
  · rename_i width hwidth
    split at h
    · rename_i bytes hbytes
      unfold window? offsetAfter at hbytes
      split at hbytes
      · cases hbytes
        cases h
        exact ⟨width, hwidth, by omega, rfl⟩
      · cases hbytes
    · cases h

theorem Field.read_eq_none_iff : f.read payload = .ok none ↔ f.width? = none := by
  unfold Field.read
  split
  · simp_all
  · rename_i width hwidth
    split <;> simp [hwidth]

theorem length_window {offset width : Nat} (h : offset + width ≤ payload.length) :
    ((payload.drop offset).take width).length = width := by
  rw [List.length_take, List.length_drop]
  omega

/-- An integer of at most eight bytes has the same value for both. -/
theorem expression_of_integer {signed : Bool} {width : Nat} {value : Json}
    (hwidth : (1 ≤ width ∧ width ≤ 6) ∨ width = 8) (offset : Nat)
    (hfits : offset + width ≤ payload.length)
    (hvalue : value =
      let bytes := (payload.drop offset).take width
      if signed then .num (Number.ofInt64 (Int64.ofInt (signedLittleEndian bytes)))
      else .num (Number.ofWord (UInt64.ofNat (littleEndian bytes)))) :
    ∃ (call : Call) (e : Expression) (v : ScriptValue),
      Call.integer? signed offset width = some call ∧ Script.callText call = e.text ∧
        e.eval payload = some v ∧ SameValue value v := by
  obtain ⟨call, hcall⟩ : ∃ call, Call.integer? signed offset width = some call :=
    Option.ne_none_iff_exists'.mp fun hnone => Call.integer?_eq_none_iff.mp hnone hwidth
  obtain ⟨e, htext, heval⟩ := Call.expression_of_integer? hcall
  refine ⟨call, e, _, hcall, htext, by rw [heval, Buffer.integer?_of_le hfits]; rfl, ?_⟩
  rw [hvalue]
  generalize hbytes : (payload.drop offset).take width = bytes
  have hlength : bytes.length = width := hbytes ▸ length_window hfits
  have hpatterns : patterns bytes.length ≤ 0x10000000000000000 :=
    patterns_le (by omega : bytes.length ≤ 8)
  cases signed with
  | true =>
    obtain ⟨hlow, hhigh⟩ := signedLittleEndian_bounds bytes
    exact .ofInt64 (by omega) (by omega)
  | false =>
    have hlt := littleEndian_lt bytes
    exact .ofWord (by omega)

theorem eval_half {offset : Nat} (hfits : offset + 2 ≤ payload.length) :
    Expression.eval payload (.halfToFloat (.slice offset (offset + 2))) =
      some (.number (.ofSingle (singleOfHalf
        (UInt16.ofNat (littleEndian ((payload.drop offset).take 2)))))) := by
  have hlength := length_window hfits
  rw [Expression.eval, Expression.eval, Option.bind_some, ScriptValue.halfToFloat?,
    Buffer.slice_add, Buffer.bytes?_of_le (by omega), List.drop_zero, Option.map_some,
    Buffer.unsigned_eq, List.take_take, Nat.min_self]

theorem eval_single {offset : Nat} (hfits : offset + 4 ≤ payload.length) :
    Expression.eval payload (.single offset) = some (.number (.ofSingle
      (UInt32.ofNat (littleEndian ((payload.drop offset).take 4))))) := by
  rw [Expression.eval, Buffer.bytes?_of_le hfits, Option.map_some, Buffer.unsigned_eq]

theorem eval_double {offset : Nat} (hfits : offset + 8 ≤ payload.length) :
    Expression.eval payload (.double offset) =
      some (.number ⟨UInt64.ofNat (littleEndian ((payload.drop offset).take 8))⟩) := by
  rw [Expression.eval, Buffer.bytes?_of_le hfits, Option.map_some, Buffer.unsigned_eq]

theorem eval_decoded (encoding : Encoding) (offset width : Nat) :
    Expression.eval payload (.decoded encoding offset (offset + width)) =
      some (.text (Buffer.decoded encoding ((payload.drop offset).take width))) := by
  rw [Expression.eval, Buffer.slice_add]

/-- The end of a field that lies in the payload has not been cut off. -/
theorem Field.stop_eq (hsize : payload.length < 0xFFFFFFFFFFFFFFFF)
    (hfits : f.offset.toNat + f.length.toNat ≤ payload.length) :
    f.stop = f.offset.toNat + f.length.toNat := by
  unfold Field.stop offsetAfter
  omega

/-- The read that is written for a field has the field's value. -/
theorem expression_of_read (hsize : payload.length < 0xFFFFFFFFFFFFFFFF)
    (h : f.read payload = .ok (some value)) :
    ∃ (call : Call) (e : Expression) (v : ScriptValue), Call.of? f = some call ∧
      Script.callText call = e.text ∧ e.eval payload = some v ∧ SameValue value v := by
  obtain ⟨width, hwidth, hfits, rfl⟩ := Field.read_eq_some hsize h
  unfold Field.width? at hwidth
  unfold Call.of?
  cases hkind : f.kind with
  | int =>
    simp only [hkind, Call.length_iff, Option.ite_none_right_eq_some, Option.some.injEq] at hwidth
    obtain ⟨hlength, rfl⟩ := hwidth
    have hbytes := length_window hfits
    exact expression_of_integer hlength _ hfits (Field.valueOf_int hkind hbytes (by omega))
  | uint =>
    simp only [hkind, Call.length_iff, Option.ite_none_right_eq_some, Option.some.injEq] at hwidth
    obtain ⟨hlength, rfl⟩ := hwidth
    rw [Field.valueOf, hkind]
    exact expression_of_integer hlength _ hfits rfl
  | float =>
    simp only [hkind, Option.some.injEq] at hwidth
    subst hwidth
    rw [Field.valueOf, hkind]
    by_cases htwo : f.length = 2
    · simp only [htwo, if_true] at hfits ⊢
      have hstop : f.stop = f.offset.toNat + 2 := by
        rw [Field.stop_eq hsize (htwo ▸ hfits), htwo]
        rfl
      rw [hstop]
      exact ⟨_, _, _, rfl, by rfl, eval_half hfits, .ofBinary64 _⟩
    · by_cases hfour : f.length = 4
      · simp only [hfour, if_true] at hfits ⊢
        exact ⟨_, _, _, rfl, by rfl, eval_single hfits, .ofBinary64 _⟩
      · simp only [htwo, hfour, if_false] at hfits ⊢
        exact ⟨_, _, _, rfl, by rfl, eval_double hfits, .ofBinary64 _⟩
  | asciiText =>
    simp only [hkind, Option.some.injEq] at hwidth
    subst hwidth
    rw [Field.valueOf, hkind, Field.stop_eq hsize hfits]
    exact ⟨_, _, _, rfl, by rfl, eval_decoded .ascii _ _, .text _⟩
  | unicodeText =>
    simp only [hkind, Option.some.injEq] at hwidth
    subst hwidth
    rw [Field.valueOf, hkind, Field.stop_eq hsize hfits]
    exact ⟨_, _, _, rfl, by rfl, eval_decoded .utf8 _ _, .text _⟩
  | unknown name => simp [hkind] at hwidth

/-! ## Runs -/

/-- Two maps have the same keys, with the same value under each key. -/
def SameFields (values : Members) (fields : FieldMap) : Prop :=
  ∀ key, Option.Rel SameValue (values.member? key) (fields key)

theorem SameFields.store {values : Members} {fields : FieldMap} (h : SameFields values fields)
    (key : String) {v : ScriptValue} (hv : SameValue value v) :
    SameFields (values.insert key value) (fields.store key v) := by
  intro key'
  rw [Members.member?_insert, FieldMap.store]
  by_cases heq : key' = key
  · rw [if_pos heq, if_pos heq]
    exact .some hv
  · rw [if_neg heq, if_neg heq]
    exact h key'

/-- The lines that are written for fields, one after the other, do what the interpreter does. -/
theorem assign_same (hsize : payload.length < 0xFFFFFFFFFFFFFFFF) :
    ∀ (plan : List Field) {values values' : Members} {fields : FieldMap},
      SameFields values fields → readFields payload plan values = .ok values' →
        ∃ (assignments : List Assignment) (fields' : FieldMap),
          (plan.filterMap fun f => (Call.of? f).map fun call =>
            Script.storeLine f.name (Script.callText call)) = assignments.map Assignment.text ∧
          FieldMap.assign payload assignments fields = some fields' ∧ SameFields values' fields'
  | [], values, values', fields, hsame, h => by
    cases h
    exact ⟨[], fields, rfl, rfl, hsame⟩
  | f :: rest, values, values', fields, hsame, h => by
    rw [readFields] at h
    split at h
    · cases h
    · rename_i hread
      have hskip : Call.of? f = none := Call.of?_eq_none_iff.mpr (Field.read_eq_none_iff.mp hread)
      rw [List.filterMap_cons, hskip]
      exact assign_same hsize rest hsame h
    · rename_i value hread
      obtain ⟨call, e, v, hcall, htext, heval, hv⟩ := expression_of_read hsize hread
      obtain ⟨assignments, fields', hlines, hrun, hsame'⟩ :=
        assign_same hsize rest (hsame.store f.name hv) h
      refine ⟨⟨f.name, e⟩ :: assignments, fields', ?_, ?_, hsame'⟩
      · rw [List.filterMap_cons, hcall, List.map_cons, ← hlines, Assignment.text, ← htext]
        rfl
      · simp only [FieldMap.assign, heval]
        exact hrun

/-! ## Time -/

/-- The time that the interpreter stores. -/
def storedTime (time : Timing) (received : Int64) (values : Members) :
    Except DecodeFault (Option Int64) :=
  match time with
  | .network => .ok (some received)
  | .device none _ => .ok none
  | .device (some field) format =>
    match values.member? field with
    | none => .error (.missingTimeField field)
    | some value =>
      match timestamp value format with
      | .ok n => .ok (some n)
      | .error reason => .error (.invalidTimestamp field reason)

/-- Members with the time, if there is one. -/
def Members.withTime (values : Members) : Option Int64 → Members
  | none => values
  | some n => values.insert timeKey (.num (Number.ofInt64 n))

theorem addTime_eq_ok {time : Timing} {received : Int64} {values values' : Members}
    (h : addTime time received values = .ok values') :
    ∃ stored, storedTime time received values = .ok stored ∧ values' = values.withTime stored := by
  unfold addTime at h
  split at h
  · exact ⟨some received, rfl, (Except.ok.inj h).symm⟩
  · exact ⟨none, rfl, (Except.ok.inj h).symm⟩
  · rename_i field format
    split at h
    · cases h
    · rename_i value hvalue
      split at h
      · rename_i n hn
        exact ⟨some n, by simp only [storedTime, hvalue, hn], (Except.ok.inj h).symm⟩
      · cases h

/-- A number of units as nanoseconds: exactly if it is an integer, else in double precision. -/
inductive Scales (factor : Nat) (value : Json) : Int64 → Prop where
  | whole (n : Int) (h : value.signedWord? = some n) (low : -0x8000000000000000 ≤ n * factor)
    (high : n * factor < 0x8000000000000000) : Scales factor value (Int64.ofInt (n * factor))
  | numeric (x : Binary64) (h : value.signedWord? = none) (h' : value.numeric? = some x) :
    Scales factor value (Int64.ofInt (x.mul (Binary64.ofInt factor)).truncate)

theorem timestamp_scales {format : TimestampFormat} {factor : Nat} {n : Int64}
    (hformat : format.unitNanos? = some factor) (h : timestamp value format = .ok n) :
    Scales factor value n := by
  simp only [timestamp, hformat] at h
  cases hword : value.signedWord? with
  | some whole =>
    simp only [hword, nanoseconds] at h
    split at h
    · rename_i hrange
      cases h
      exact .whole whole hword hrange.1 hrange.2
    · cases h
  | none =>
    simp only [hword] at h
    cases hnumber : value.numeric? with
    | none => simp [hnumber] at h
    | some x =>
      simp only [hnumber, scaledTimestamp] at h
      split at h
      · cases h
      · split at h
        · cases h
          exact .numeric x hword hnumber
        · cases h

theorem time_isSome {time : Timing} {received : Int64} {values : Members} {stored : Option Int64}
    (h : storedTime time received values = .ok stored) :
    (TimeStep.of? time).isSome = stored.isSome := by
  unfold storedTime at h
  split at h
  · cases h
    rfl
  · cases h
    rfl
  · rename_i field format
    split at h
    · cases h
    · split at h
      · cases h
        simp only [TimeStep.of?]
        cases format.unitNanos? <;> rfl
      · cases h

/-! ## Agreement -/

/-- The interpreter and the script agree on a payload: `values` and `fields` are what the two have
read, and `time` is the time that the interpreter stores.

* `lines` — after its routine the script has the lines of `assignments`, then one for the time;
* `same` — before that line they have the same fields;
* `skipped` — they skip the same fields of the plan;
* `emitted` — the script has a line for the time if the interpreter stores one;
* `scaled` — a time in epoch units is scaled from the same field by the same factor. -/
structure Script.Agrees (plan : Plan) (payload : Payload) (received : Int64) (record : Record)
    (values : Members) (time : Option Int64) (assignments : List Assignment) (fields : FieldMap)
    (timeLine : Option String) : Prop where
  read : readFields payload plan.fields [] = .ok values
  timed : storedTime plan.time received values = .ok time
  stored : record.fields = values.withTime time
  lines : (Script.of plan).lines =
    ["", "var buf = msg.payload_raw;", "var fields = \x7b\x7d;"] ++
      assignments.map Assignment.text ++ timeLine.toList ++
      ["msg.payload = [fields, " ++ (Json.obj record.tags).compact ++ "];", "return msg;"]
  run : FieldMap.assign payload assignments FieldMap.empty = some fields
  same : SameFields values fields
  skipped : ∀ f ∈ plan.fields, Call.of? f = none ↔ f.read payload = .ok none
  emitted : timeLine.isSome = time.isSome
  scaled : ∀ field format factor, plan.time = .device (some field) format →
    format.unitNanos? = some factor →
      timeLine = some (storeLine timeKey
        (if factor = 1 then slotText field else slotText field ++ " * " ++ Text.decimal factor)) ∧
      ∃ value n, values.member? field = some value ∧ time = some n ∧ Scales factor value n

/-- **The script does what the interpreter does**, for every sensor and layout and every payload
that is decoded.  No payload is so long that offsets behind it are cut off. -/
theorem script_agrees (sensor : Sensor) (layout : Layout) {received : Int64} {record : Record}
    (hsize : payload.length < 0xFFFFFFFFFFFFFFFF)
    (h : (Plan.of sensor layout).decode payload received = .ok record) :
    ∃ values time assignments fields timeLine, Script.Agrees (Plan.of sensor layout) payload
      received record values time assignments fields timeLine := by
  generalize Plan.of sensor layout = plan at h
  obtain ⟨values, hread, h⟩ := bind_eq_ok_iff.mp h
  obtain ⟨stored, hstored, h⟩ := bind_eq_ok_iff.mp h
  cases h
  obtain ⟨time, htime, rfl⟩ := addTime_eq_ok hstored
  have hempty : SameFields [] FieldMap.empty := fun _ => .none
  obtain ⟨assignments, fields, hlines, hrun, hsame⟩ := assign_same hsize plan.fields hempty hread
  refine ⟨values, time, assignments, fields,
    (TimeStep.of? plan.time).map fun t => Script.storeLine timeKey (Script.timeExpression t),
    hread, htime, rfl, ?_, hrun, hsame, fun f _ => ?_, ?_,
    fun field format factor hdevice hformat => ?_⟩
  · rw [← hlines]
    simp [Script.lines, Script.of, List.map_filterMap, Function.comp_def]
  · rw [Call.of?_eq_none_iff, Field.read_eq_none_iff]
  · rw [Option.isSome_map, time_isSome htime]
  · refine ⟨by simp [hdevice, TimeStep.of?, hformat, Script.timeExpression], ?_⟩
    rw [hdevice, storedTime] at htime
    split at htime
    · cases htime
    · rename_i value hvalue
      split at htime
      · rename_i n hn
        cases htime
        exact ⟨value, n, hvalue, rfl, timestamp_scales hformat hn⟩
      · cases htime

/-- A layout with a number of each kind, a text, a field that is skipped, and a repeated name. -/
def sampleLayout : Layout where
  kind := "soil"
  version := "1"
  fields :=
    [⟨"status", .uint, 0, 1⟩, ⟨"time", .int, 1, 2⟩, ⟨"humidity", .float, 3, 2⟩,
      ⟨"pressure", .float, 5, 4⟩, ⟨"odd", .uint, 0, 7⟩, ⟨"t", .uint, 9, 4⟩,
      ⟨"status", .asciiText, 13, 3⟩]
  time := ⟨.device, some "t", some .epochSeconds⟩
  measurement := "soil_readings"

/-- The second `status` counts for both, and the time takes the place of the field `time`. -/
theorem script_agrees_sample :
    let sensor : Sensor := ⟨"sensorA", "soil", "1", ⟨"dev-01", "farm-app", "key"⟩, []⟩
    let payload : Payload :=
      [0x07, 0x2e, 0xfb, 0x40, 0x56, 0x00, 0x50, 0x7d, 0x44, 0x00, 0xf1, 0x53, 0x65, 0x4e, 0x30,
        0x31]
    ∃ record values assignments fields timeLine, Script.Agrees (Plan.of sensor sampleLayout) payload
      0 record values (some 1700000000000000000) assignments fields timeLine := by
  intro sensor payload
  obtain ⟨record, hrecord⟩ : ∃ record,
      (Plan.of sensor sampleLayout).decode payload 0 = .ok record := by
    have hok : ((Plan.of sensor sampleLayout).decode payload 0).isOk = true := by decide +kernel
    cases hdecode : (Plan.of sensor sampleLayout).decode payload 0 with
    | error fault => simp [hdecode, Except.isOk, Except.toBool] at hok
    | ok record => exact ⟨record, rfl⟩
  obtain ⟨values, time, assignments, fields, timeLine, hagrees⟩ :=
    script_agrees sensor sampleLayout (by decide +kernel) hrecord
  have htime : (readFields payload (Plan.of sensor sampleLayout).fields []).toOption.bind
      (fun values => (storedTime (Plan.of sensor sampleLayout).time 0 values).toOption) =
        some (some 1700000000000000000) := by
    decide +kernel
  rw [hagrees.read] at htime
  simp only [Except.toOption, Option.bind_some, hagrees.timed, Option.some.injEq] at htime
  exact ⟨record, values, assignments, fields, timeLine, htime ▸ hagrees⟩

end UplinkFlow
